import BindStream.Proofs.Channel.Worker
import Mathlib.Data.List.Basic

namespace BindStream

/-! What a worker does, act by act, and where that leaves its rows. -/

variable {ρ : Type}

inductive Act (ρ : Type)
  | asked (request : Request ρ) (reply : Reply ρ)
  /-- What was in the slot of a cursor that has the name already is lost. -/
  | opened (name : String) (lost : Option ρ)
  | dropped (name : String) (existed : Bool) (lost : Option ρ)
  /-- An answer, and what the look-ahead slot holds from then on. -/
  | answered (name : String) (query : Cursor.Query) (answer : Cursor.Answer ρ) (slot : Option ρ)
  /-- The first row of a collection, if it was in the slot. -/
  | began (name : String) (row : Option ρ)
  | collected (name : String) (row : ρ)
  | finished (name : String) (rows : List ρ)
  deriving DecidableEq, Repr

namespace Act

/-- The row that an act hands to the consumer, with the cursor that it has come through. -/
def given? : Act ρ → Option (Option String × ρ)
  | asked _ (.row row) => some (none, row)
  | answered name .next (.row (some row)) _ => some (some name, row)
  | answered name .nextRow (.row (some row)) _ => some (some name, row)
  | began name (some row) => some (some name, row)
  | collected name row => some (some name, row)
  | _ => none

def row? (act : Act ρ) : Option ρ := act.given?.map Prod.snd

def rowThrough? (name : String) (act : Act ρ) : Option ρ :=
  act.given?.bind fun given => if given.1 = some name then some given.2 else none

def lost? : Act ρ → Option ρ
  | opened _ lost => lost
  | dropped _ _ lost => lost
  | _ => none

def outcome? : Act ρ → Option (Outcome ρ)
  | asked _ reply => some (.reply reply)
  | opened _ _ => some .opened
  | dropped _ existed _ => some (.dropped existed)
  | answered _ _ answer _ => some (.answer answer)
  | began _ _ => none
  | collected _ _ => none
  | finished _ rows => some (.rows rows)

/-- The operation that an act brings to its end. -/
def operation? : Act ρ → Option (Operation ρ)
  | asked request _ => some (.ask request)
  | opened name _ => some (.openCursor name)
  | dropped name _ _ => some (.dropCursor name)
  | answered name query _ _ => some (.query name query)
  | began _ _ => none
  | collected _ _ => none
  | finished name _ => some (.collect name)

/-- The slot of a cursor after an act, from what it held before. -/
def slot (name : String) (held : Option ρ) : Act ρ → Option ρ
  | opened other _ => if other = name then none else held
  | dropped other _ _ => if other = name then none else held
  | answered other _ _ left => if other = name then left else held
  | began other _ => if other = name then none else held
  | finished other _ => if other = name then none else held
  | _ => held

def gather (rows : List ρ) : Act ρ → List ρ
  | began _ row => row.toList
  | collected _ row => rows ++ [row]
  | finished _ _ => []
  | _ => rows

end Act

def slotAfter (name : String) (acts : List (Act ρ)) : Option ρ := acts.foldl (Act.slot name) none

def gathered (acts : List (Act ρ)) : List ρ := acts.foldl Act.gather []

@[simp] theorem slotAfter_snoc (name : String) (acts : List (Act ρ)) (act : Act ρ) :
    slotAfter name (acts ++ [act]) = act.slot name (slotAfter name acts) := by
  simp [slotAfter]

@[simp] theorem gathered_snoc (acts : List (Act ρ)) (act : Act ρ) :
    gathered (acts ++ [act]) = act.gather (gathered acts) := by
  simp [gathered]

/-- An act as the acts before it allow it: a row in a slot is what the next query is answered
from, and only an empty slot is filled from the channel. -/
def Act.Follows (before : List (Act ρ)) : Act ρ → Prop
  | asked _ _ => True
  | opened name lost => lost = slotAfter name before
  | dropped name _ lost => lost = slotAfter name before
  | answered name query answer slot =>
    match slotAfter name before with
    | some row => (answer, ⟨slot⟩) = Cursor.present row query
    | none => ∃ reply, (answer, ⟨slot⟩) = Cursor.receive query reply
  | began name row => row = slotAfter name before
  | collected name _ => slotAfter name before = none
  | finished name rows => slotAfter name before = none ∧ rows = gathered before

def Reply.row? : Reply ρ → Option ρ
  | .row given => some given
  | _ => none

namespace Worker

/-- The acts in which a worker settles, beside `settle`. -/
def settleActs (worker : Worker ρ) : List (Operation ρ) → List (Act ρ)
  | [] => []
  | .openCursor name :: rest =>
    .opened name (worker.cursor name).lookahead ::
      ((worker.setCursor name .empty).report .opened).settleActs rest
  | .dropCursor name :: rest =>
    let existed := (worker.cursors.lookup name).isSome
    .dropped name existed (worker.cursor name).lookahead ::
      ((worker.removeCursor name).report (.dropped existed)).settleActs rest
  | .query name query :: rest =>
    match (worker.cursor name).answer? query with
    | some (answer, cursor) =>
      .answered name query answer cursor.lookahead ::
        ((worker.setCursor name cursor).report (.answer answer)).settleActs rest
    | none => []
  | .collect name :: _ => [.began name (worker.cursor name).lookahead]
  | .ask _ :: _ => []

/-- The acts that a reply leads to, beside `resume`. -/
def resumeActs (worker : Worker ρ) (reply : Reply ρ) : List (Act ρ) :=
  match worker.todo with
  | .ask request :: rest =>
    .asked request reply :: (worker.report (.reply reply)).settleActs rest
  | .query name query :: rest =>
    let (answer, cursor) := Cursor.receive query reply
    .answered name query answer cursor.lookahead ::
      ((worker.setCursor name cursor).report (.answer answer)).settleActs rest
  | .collect name :: rest =>
    match reply with
    | .row row => [.collected name row]
    | _ =>
      let finished := (worker.removeCursor name).report (.rows worker.collected)
      .finished name worker.collected :: { finished with collected := [] }.settleActs rest
  | _ => []

def actsFrom (worker : Worker ρ) : List (Reply ρ) → List (Act ρ)
  | [] => []
  | reply :: replies => worker.resumeActs reply ++ (worker.resume reply).actsFrom replies

/-- All acts of a worker that starts with some operations and is given some replies. -/
def acts (operations : List (Operation ρ)) (replies : List (Reply ρ)) : List (Act ρ) :=
  settleActs ⟨[], [], [], []⟩ operations ++ (start operations).actsFrom replies

theorem actsFrom_snoc (worker : Worker ρ) (replies : List (Reply ρ)) (reply : Reply ρ) :
    worker.actsFrom (replies ++ [reply]) =
      worker.actsFrom replies ++ (replies.foldl resume worker).resumeActs reply := by
  induction replies generalizing worker with
  | nil => simp [actsFrom]
  | cons first replies ih => simp [actsFrom, ih]

theorem acts_snoc (operations : List (Operation ρ)) (replies : List (Reply ρ))
    (reply : Reply ρ) :
    acts operations (replies ++ [reply]) =
      acts operations replies ++ (replies.foldl resume (start operations)).resumeActs reply := by
  rw [acts, actsFrom_snoc, acts, List.append_assoc]

theorem operations_settle (worker : Worker ρ) (operations : List (Operation ρ)) :
    (worker.settleActs operations).filterMap Act.operation? ++ (worker.settle operations).todo =
      operations := by
  induction operations generalizing worker with
  | nil => rfl
  | cons operation rest ih =>
      cases operation with
      | ask request => rfl
      | openCursor name => exact congrArg _ (ih _)
      | dropCursor name => exact congrArg _ (ih _)
      | query name query =>
          unfold settle settleActs
          cases (worker.cursor name).answer? query with
          | none => rfl
          | some answered => exact congrArg _ (ih _)
      | collect name => rfl

theorem operations_resume (worker : Worker ρ) (reply : Reply ρ) :
    (worker.resumeActs reply).filterMap Act.operation? ++ (worker.resume reply).todo =
      worker.todo := by
  unfold resumeActs resume
  cases todo : worker.todo with
  | nil => exact todo
  | cons operation rest =>
      cases operation with
      | ask request => exact congrArg _ (operations_settle _ rest)
      | openCursor name => exact todo
      | dropCursor name => exact todo
      | query name query => exact congrArg _ (operations_settle _ rest)
      | collect name =>
          cases reply with
          | row row => rfl
          | _ => exact congrArg _ (operations_settle _ rest)

/-! The cursors of a worker, by name. -/

/-- The rows in the slots of all cursors. -/
def held (worker : Worker ρ) : List ρ := worker.cursors.filterMap fun entry => entry.2.lookahead

variable {worker next : Worker ρ} {name : String}

theorem held_filter (cursors : List (String × Cursor ρ)) (names : (cursors.map Prod.fst).Nodup)
    (name : String) :
    (cursors.filterMap fun entry => entry.2.lookahead).Perm
      (((cursors.lookup name).getD .empty).lookahead.toList ++
        (cursors.filter (·.1 != name)).filterMap fun entry => entry.2.lookahead) := by
  induction cursors with
  | nil => simp [Cursor.empty]
  | cons entry cursors ih =>
      obtain ⟨key, cursor⟩ := entry
      rw [List.map_cons, List.nodup_cons] at names
      by_cases own : name = key
      · subst own
        -- No other cursor has the name, so none goes with the first.
        have apart : cursors.filter (·.1 != name) = cursors := by
          apply List.filter_eq_self.mpr
          intro entry member
          have other : entry.1 ≠ name := fun same =>
            names.1 (List.mem_map.mpr ⟨entry, member, same⟩)
          simpa using other
        cases slot : cursor.lookahead <;> simp [slot, apart]
      · have ih := ih names.2
        rw [List.lookup_cons, beq_eq_false_iff_ne.mpr own,
          List.filter_cons_of_pos (by simpa using Ne.symm own)]
        cases slot : cursor.lookahead with
        | none => simpa [slot] using ih
        | some row =>
            simp only [List.filterMap_cons, slot]
            exact (ih.cons row).trans List.perm_middle.symm

theorem held_perm (names : (worker.cursors.map Prod.fst).Nodup) (name : String) :
    worker.held.Perm
      ((worker.cursor name).lookahead.toList ++ (worker.removeCursor name).held) :=
  held_filter worker.cursors names name

theorem nodup_removeCursor (names : (worker.cursors.map Prod.fst).Nodup) (name : String) :
    ((worker.removeCursor name).cursors.map Prod.fst).Nodup :=
  names.sublist (List.filter_sublist.map Prod.fst)

theorem nodup_setCursor (names : (worker.cursors.map Prod.fst).Nodup) (name : String)
    (cursor : Cursor ρ) : ((worker.setCursor name cursor).cursors.map Prod.fst).Nodup := by
  rw [setCursor, List.map_cons, List.nodup_cons]
  refine ⟨?_, nodup_removeCursor names name⟩
  simp [removeCursor]

end Worker

end BindStream
