import BindStream.Proofs.QueryStream.Closing

namespace BindStream

/-! The rows that an executor pushes if every push succeeds, and what it returns then. -/

namespace Action

/-- A script that, with every push accepted, neither looks at the channel nor panics. -/
def Steady : List Action → Prop
  | [] => True
  | push _ :: rest => Steady rest
  | offer _ :: rest => Steady rest
  | pushFrom _ :: _ => True
  | fail _ :: _ => True
  | pushCancelled :: _ => False
  | awaitCancel _ :: _ => False
  | panic :: _ => False

/-- The rows that a script pushes up to some point, and what it returns if it ends there. -/
inductive Delivers : List Action → List Row → Option Ending → Prop
  | underway {actions : List Action} : Delivers actions [] none
  | finished : Delivers [] [] (some .finished)
  | failed {error : ExecuteError} {rest : List Action} :
      Delivers (fail error :: rest) [] (some (.failed error))
  | push {row : Row} {rest : List Action} {rows : List Row} {ending : Option Ending}
      (more : Delivers rest rows ending) : Delivers (push row :: rest) (row :: rows) ending
  | offer {row : Row} {rest : List Action} {rows : List Row} {ending : Option Ending}
      (more : Delivers rest rows ending) : Delivers (offer row :: rest) (row :: rows) ending
  | pushFrom {n : Nat} {rest : List Action} {rows : List Row} {ending : Option Ending}
      (more : Delivers (pushFrom (n + 1) :: rest) rows ending) :
      Delivers (pushFrom n :: rest) (.ofNat n :: rows) ending

namespace Delivers

variable {actions : List Action} {rows more : List Row} {ending : Option Ending}

theorem of_append (delivers : Delivers actions (rows ++ more) ending) :
    Delivers actions rows none := by
  induction rows generalizing actions with
  | nil => exact .underway
  | cons row rows ih =>
      cases delivers with
      | push more => exact .push (ih more)
      | offer more => exact .offer (ih more)
      | pushFrom more => exact .pushFrom (ih more)

theorem ne_panicked {last : Ending} (delivers : Delivers actions rows (some last)) :
    last ≠ .panicked := by
  generalize at_end : some last = ending at delivers
  induction delivers with
  | underway => cases at_end
  | finished | failed =>
      cases at_end
      rintro ⟨⟩
  | push _ ih | offer _ ih | pushFrom _ ih => exact ih at_end

/-- What a script has pushed up to some point are its first rows. -/
theorem prefix_of_some {all : List Row} {last : Ending} (delivers : Delivers actions rows ending)
    (whole : Delivers actions all (some last)) :
    rows <+: all ∧ ∀ found, ending = some found → rows = all ∧ found = last := by
  induction delivers generalizing all with
  | underway => exact ⟨List.nil_prefix, by rintro _ ⟨⟩⟩
  | finished =>
      cases whole
      exact ⟨List.nil_prefix, by rintro _ ⟨⟩; exact ⟨rfl, rfl⟩⟩
  | failed =>
      cases whole
      exact ⟨List.nil_prefix, by rintro _ ⟨⟩; exact ⟨rfl, rfl⟩⟩
  | push _ ih | offer _ ih | pushFrom _ ih =>
      cases whole
      next whole =>
        obtain ⟨first, same⟩ := ih whole
        refine ⟨List.cons_prefix_cons.mpr ⟨rfl, first⟩, fun found at_end => ?_⟩
        obtain ⟨rfl, rfl⟩ := same found at_end
        exact ⟨rfl, rfl⟩

/-- A script that counts up comes to no end. -/
theorem endless {n : Nat} {rest : List Action}
    (delivers : Delivers (.pushFrom n :: rest) rows ending) : ending = none := by
  generalize counts : Action.pushFrom n :: rest = actions at delivers
  induction delivers generalizing n with
  | underway => rfl
  | finished | failed | push | offer => cases counts
  | pushFrom more ih =>
      cases counts
      exact ih rfl

/-- No script that comes to an end has more rows than its producer has actions ahead. -/
theorem length_le {last : Ending} (delivers : Delivers actions rows (some last)) :
    rows.length ≤ (Producer.start actions).remaining := by
  have shorter (actions : List Action) : (Producer.start actions).remaining ≤ actions.length := by
    unfold Producer.start
    split <;> simp [Producer.remaining]
  generalize at_end : some last = ending at delivers
  induction delivers with
  | underway => cases at_end
  | finished | failed => exact Nat.zero_le _
  | push more ih | offer more ih => exact Nat.succ_le_succ ((ih at_end).trans (shorter _))
  | pushFrom more ih => cases at_end.trans more.endless

end Delivers

/-- What an executor returns behind the rows of its script, and the error that is reported then. -/
structure Returns (script : List Action) (rows : List Row) (ending : Ending) : Prop where
  delivers : Delivers script rows (some ending)
  only : ∀ all last, Delivers script all (some last) → all = rows ∧ last = ending
  finished : ending.error? = none ↔ Delivers script rows (some .finished)
  failed : ∀ error,
    ending.error? = some error ↔ Delivers script rows (some (.failed error))

theorem Delivers.returns {script : List Action} {rows : List Row} {ending : Ending}
    (delivers : Delivers script rows (some ending)) : Returns script rows ending := by
  have only (all : List Row) (last : Ending) (other : Delivers script all (some last)) :
      all = rows ∧ last = ending := (other.prefix_of_some delivers).2 last rfl
  have normal := delivers.ne_panicked
  refine ⟨delivers, only, ⟨fun reported => ?_, fun other => ?_⟩,
    fun error => ⟨fun reported => ?_, fun other => ?_⟩⟩
  · cases ending with
    | finished => exact delivers
    | failed error => cases reported
    | panicked => exact absurd rfl normal
  · rw [← (only _ _ other).2]
    rfl
  · cases ending with
    | finished => cases reported
    | failed error =>
        cases reported
        exact delivers
    | panicked => exact absurd rfl normal
  · rw [← (only _ _ other).2]
    rfl

/-- Behind its first rows, a script goes on as `rest` does. -/
def GoesOn (script : List Action) (rows : List Row) (rest : List Action) : Prop :=
  ∀ more ending, Delivers rest more ending → Delivers script (rows ++ more) ending

end Action

namespace Producer

variable {script rest : List Action} {rows : List Row} {row : Row}

/-- A producer that has pushed the first rows of a script and has the rest of it ahead. -/
inductive Follows (script : List Action) : List Row → Producer → Prop
  | executing {rows : List Row} {rest : List Action} {row : Row} (steady : Action.Steady rest)
      (asks : (executing rest).request = some (.put row none))
      (goesOn : Action.GoesOn script rows rest) :
      Follows script rows (executing rest)
  | closing {rows : List Row} {ending : Ending}
      (delivers : Action.Delivers script rows (some ending)) :
      Follows script rows (closing ending)
  | ended {rows : List Row} {ending : Ending}
      (delivers : Action.Delivers script rows (some ending)) :
      Follows script rows (ended ending)

theorem follows_start (steady : Action.Steady rest)
    (goesOn : Action.GoesOn script rows rest) : Follows script rows (start rest) := by
  have ends {ending : Ending} (delivers : Action.Delivers rest [] (some ending)) :
      Action.Delivers script rows (some ending) := by
    simpa using goesOn [] _ delivers
  rcases rest with _ | ⟨action, rest⟩
  · exact .closing (ends .finished)
  · cases action with
    | push row | offer row | pushFrom n => exact .executing steady rfl goesOn
    | fail error => exact .closing (ends .failed)
    | pushCancelled | awaitCancel message | panic => exact steady.elim

theorem Follows.stored (follows : Follows script rows (Producer.executing rest))
    (asks : (Producer.executing rest).request = some (.put row none)) :
    Follows script (rows ++ [row]) ((Producer.executing rest).resume .stored) := by
  cases follows with
  | executing steady _ goesOn =>
      have next {later : List Action} (one : Action.GoesOn rest [row] later) :
          Action.GoesOn script (rows ++ [row]) later := by
        intro more ending delivers
        rw [List.append_assoc]
        exact goesOn _ _ (one more ending delivers)
      rcases rest with _ | ⟨action, rest⟩
      · cases asks
      · cases action with
        | push row =>
            cases asks
            exact follows_start steady (next fun _ _ => .push)
        | offer row =>
            cases asks
            exact follows_start steady (next fun _ _ => .offer)
        | pushFrom n =>
            cases asks
            exact .executing trivial rfl (next fun _ _ => .pushFrom)
        | pushCancelled | awaitCancel message | fail error | panic => cases asks

theorem Follows.delivers {producer : Producer} (follows : Follows script rows producer) :
    Action.Delivers script rows none := by
  cases follows with
  | executing _ _ goesOn => exact (goesOn [] none .underway).of_append
  | closing delivers | ended delivers => exact .of_append (List.append_nil rows ▸ delivers)

theorem Follows.ending?_eq_none {producer : Producer} (follows : Follows script rows producer)
    (stage : producer.Stage false) : producer.ending? = none := by
  cases follows with
  | executing | closing => rfl
  | ended delivers =>
      cases stage with
      | ended returned => cases returned.mpr delivers.ne_panicked

end Producer

end BindStream
