import BindStream.Proofs.Channel.Act

namespace BindStream.Worker

/-! The rows that a worker has taken are those that it has handed on, those in its slots, and those
that were lost with a cursor. -/

variable {ρ : Type} {worker next : Worker ρ} {acts : List (Act ρ)} {act : Act ρ}
variable {taken : List ρ} {fetched left : Option ρ} {name : String}

/-- A worker's rows, accounted for by its acts. -/
structure Books (worker : Worker ρ) (acts : List (Act ρ)) (taken : List ρ) : Prop where
  names : (worker.cursors.map Prod.fst).Nodup
  slots : ∀ name, (worker.cursor name).lookahead = slotAfter name acts
  collected : worker.collected = gathered acts
  outcomes : worker.outcomes = acts.filterMap Act.outcome?
  rows : taken.Perm (acts.filterMap Act.row? ++ worker.held ++ acts.filterMap Act.lost?)
  order : ∀ name,
    (acts.filterMap (Act.rowThrough? name) ++ (slotAfter name acts).toList).Sublist taken
  follows : ∀ before act, before ++ [act] <+: acts → act.Follows before

/-- One act of a worker, for which it takes at most one row from the channel. -/
structure Entry (worker : Worker ρ) (act : Act ρ) (fetched : Option ρ) (next : Worker ρ) :
    Prop where
  names : (worker.cursors.map Prod.fst).Nodup → (next.cursors.map Prod.fst).Nodup
  slots : ∀ name, (next.cursor name).lookahead = act.slot name (worker.cursor name).lookahead
  collected : next.collected = act.gather worker.collected
  outcomes : next.outcomes = worker.outcomes ++ act.outcome?.toList
  rows : (worker.held ++ fetched.toList).Perm
    (act.row?.toList ++ next.held ++ act.lost?.toList)
  order : ∀ name,
    ((act.rowThrough? name).toList ++ (next.cursor name).lookahead.toList).Sublist
      ((worker.cursor name).lookahead.toList ++ fetched.toList)

theorem Books.enter (books : worker.Books acts taken) (entry : worker.Entry act fetched next)
    (follows : act.Follows acts) : next.Books (acts ++ [act]) (taken ++ fetched.toList) where
  names := entry.names books.names
  slots name := by rw [slotAfter_snoc, entry.slots, books.slots]
  collected := by rw [gathered_snoc, entry.collected, books.collected]
  outcomes := by
    rw [entry.outcomes, books.outcomes, List.filterMap_append]
    cases shown : act.outcome? <;> simp [shown]
  rows := by
    -- Both accounts are equations between counts of each row, and so is their sum.
    classical
    have before := List.perm_iff_count.mp books.rows
    have moved := List.perm_iff_count.mp entry.rows
    apply List.perm_iff_count.mpr
    intro row
    have before := before row
    have moved := moved row
    have own : ∀ view : Act ρ → Option ρ, [act].filterMap view = (view act).toList := by
      intro view
      cases seen : view act <;> simp [seen]
    simp only [List.count_append, List.filterMap_append, own] at before moved ⊢
    omega
  order name := by
    have before := books.order name
    have moved := entry.order name
    rw [entry.slots, books.slots] at moved
    have own : [act].filterMap (Act.rowThrough? name) = (act.rowThrough? name).toList := by
      cases seen : act.rowThrough? name <;> simp [seen]
    -- What comes through the cursor now was in its slot or is fetched, behind all earlier rows.
    have early := before.append_right fetched.toList
    rw [List.append_assoc] at early
    rw [slotAfter_snoc, List.filterMap_append, own, List.append_assoc]
    exact (moved.append_left _).trans early
  follows before shown first := by
    rcases List.prefix_concat_iff.mp first with last | earlier
    · obtain ⟨rfl, rfl⟩ := List.append_inj' last rfl |>.imp_right fun same => by simpa using same
      exact follows
    · exact books.follows before shown earlier

theorem Books.enter_own (books : worker.Books acts taken) (entry : worker.Entry act none next)
    (follows : act.Follows acts) : next.Books (acts ++ [act]) taken := by
  simpa using books.enter entry follows

/-- A worker with the slot of one cursor changed, or with that cursor gone. -/
structure Leaves (worker : Worker ρ) (name : String) (left : Option ρ) (next : Worker ρ) :
    Prop where
  names : (worker.cursors.map Prod.fst).Nodup → (next.cursors.map Prod.fst).Nodup
  slots : ∀ other, (next.cursor other).lookahead =
    if name = other then left else (worker.cursor other).lookahead
  held : next.held = left.toList ++ (worker.removeCursor name).held

theorem leaves_setCursor (worker : Worker ρ) (name : String) (cursor : Cursor ρ)
    (set : next.cursors = (worker.setCursor name cursor).cursors) :
    worker.Leaves name cursor.lookahead next where
  names names := set ▸ nodup_setCursor names name cursor
  slots other := by
    have moved := cursor_setCursor worker name other cursor
    rw [Worker.cursor, ← set] at moved
    rw [Worker.cursor, moved]
    split <;> rfl
  held := by
    rw [held, set, setCursor]
    cases slot : cursor.lookahead <;> simp [slot, held]

theorem leaves_removeCursor (worker : Worker ρ) (name : String)
    (removed : next.cursors = (worker.removeCursor name).cursors) :
    worker.Leaves name none next where
  names names := removed ▸ nodup_removeCursor names name
  slots other := by
    have moved := cursor_removeCursor worker name other
    rw [Worker.cursor, ← removed] at moved
    rw [Worker.cursor, moved]
    split <;> rfl
  held := by
    rw [held, removed]
    rfl

/-- An act on one cursor: what is in its slot and what is fetched goes to the consumer, is lost, or
is left in the slot. -/
theorem Leaves.entry (leaves : worker.Leaves name left next)
    (names : (worker.cursors.map Prod.fst).Nodup)
    (slot : ∀ other held, act.slot other held = if name = other then left else held)
    (through : ∀ other, act.rowThrough? other = if name = other then act.row? else none)
    (flow : (worker.cursor name).lookahead.toList ++ fetched.toList =
      act.row?.toList ++ act.lost?.toList ++ left.toList)
    (collected : next.collected = act.gather worker.collected)
    (outcomes : next.outcomes = worker.outcomes ++ act.outcome?.toList) :
    worker.Entry act fetched next where
  names := leaves.names
  slots other := by rw [leaves.slots, slot]
  collected := collected
  outcomes := outcomes
  rows := by
    classical
    have apart := List.perm_iff_count.mp (held_perm names name)
    apply List.perm_iff_count.mpr
    intro row
    have apart := apart row
    have flow := congrArg (List.count row) flow
    rw [leaves.held]
    simp only [List.count_append] at apart flow ⊢
    omega
  order other := by
    rw [through, leaves.slots]
    split
    · next same =>
        subst same
        rw [flow]
        exact (List.sublist_append_left _ _).append_right _
    · exact List.sublist_append_left _ _

theorem Books.of_todo (books : worker.Books acts taken) (todo : List (Operation ρ)) :
    { worker with todo := todo }.Books acts taken :=
  ⟨books.names, books.slots, books.collected, books.outcomes, books.rows, books.order,
    books.follows⟩

theorem entry_opened (names : (worker.cursors.map Prod.fst).Nodup) (name : String) :
    worker.Entry (.opened name (worker.cursor name).lookahead) none
      ((worker.setCursor name .empty).report .opened) := by
  refine Leaves.entry (leaves_setCursor worker name .empty rfl) names ?_ ?_ ?_ rfl ?_
  · exact fun _ _ => rfl
  · exact fun _ => (ite_self _).symm
  · simp [Act.row?, Act.given?, Act.lost?, Cursor.empty]
  · rfl

theorem entry_dropped (names : (worker.cursors.map Prod.fst).Nodup) (name : String)
    (existed : Bool) :
    worker.Entry (.dropped name existed (worker.cursor name).lookahead) none
      ((worker.removeCursor name).report (.dropped existed)) := by
  refine Leaves.entry (leaves_removeCursor worker name rfl) names ?_ ?_ ?_ rfl ?_
  · exact fun _ _ => rfl
  · exact fun _ => (ite_self _).symm
  · simp [Act.row?, Act.given?, Act.lost?]
  · rfl

theorem entry_answered (names : (worker.cursors.map Prod.fst).Nodup) (name : String)
    (query : Cursor.Query) (answer : Cursor.Answer ρ) (cursor : Cursor ρ)
    (flow : (worker.cursor name).lookahead.toList ++ fetched.toList =
      (Act.answered name query answer cursor.lookahead).row?.toList ++
        cursor.lookahead.toList) :
    worker.Entry (.answered name query answer cursor.lookahead) fetched
      ((worker.setCursor name cursor).report (.answer answer)) := by
  refine Leaves.entry (leaves_setCursor worker name cursor rfl) names ?_ ?_ ?_ rfl ?_
  · exact fun _ _ => rfl
  · intro other
    unfold Act.rowThrough? Act.row? Act.given?
    split <;> simp_all
  · simpa [Act.lost?] using flow
  · rfl

theorem entry_presented (names : (worker.cursors.map Prod.fst).Nodup) {row : ρ}
    (slot : (worker.cursor name).lookahead = some row) (query : Cursor.Query) :
    worker.Entry
      (.answered name query (Cursor.present row query).1 (Cursor.present row query).2.lookahead) none
      ((worker.setCursor name (Cursor.present row query).2).report
        (.answer (Cursor.present row query).1)) := by
  apply entry_answered names
  rw [slot]
  cases query <;> rfl

theorem entry_received (names : (worker.cursors.map Prod.fst).Nodup)
    (empty : (worker.cursor name).lookahead = none) (query : Cursor.Query) (reply : Reply ρ) :
    worker.Entry
      (.answered name query (Cursor.receive query reply).1 (Cursor.receive query reply).2.lookahead)
      reply.row?
      ((worker.setCursor name (Cursor.receive query reply).2).report
        (.answer (Cursor.receive query reply).1)) := by
  apply entry_answered names
  rw [empty]
  cases reply <;> cases query <;> rfl

theorem entry_began (names : (worker.cursors.map Prod.fst).Nodup) (name : String)
    (todo : List (Operation ρ)) :
    worker.Entry (.began name (worker.cursor name).lookahead) none
      { worker.setCursor name .empty with
        todo := todo
        collected := (worker.cursor name).lookahead.toList } := by
  refine Leaves.entry (leaves_setCursor worker name .empty rfl) names ?_ ?_ ?_ rfl ?_
  · exact fun _ _ => rfl
  · intro other
    cases slot : (worker.cursor name).lookahead <;> simp [Act.rowThrough?, Act.row?, Act.given?]
  · cases slot : (worker.cursor name).lookahead <;>
      simp [Act.row?, Act.given?, Act.lost?, Cursor.empty]
  · exact (List.append_nil _).symm

theorem entry_finished (names : (worker.cursors.map Prod.fst).Nodup)
    (empty : (worker.cursor name).lookahead = none) :
    worker.Entry (.finished name worker.collected) none
      { (worker.removeCursor name).report (.rows worker.collected) with collected := [] } := by
  refine Leaves.entry (leaves_removeCursor worker name rfl) names ?_ ?_ ?_ rfl rfl
  · exact fun _ _ => rfl
  · exact fun _ => (ite_self _).symm
  · simp [Act.row?, Act.given?, Act.lost?, empty]

theorem entry_collected (empty : (worker.cursor name).lookahead = none) (row : ρ) :
    worker.Entry (.collected name row) (some row)
      { worker with collected := worker.collected ++ [row] } where
  names names := names
  slots _ := rfl
  collected := rfl
  outcomes := (List.append_nil _).symm
  rows := by
    show (worker.held ++ [row]).Perm ([row] ++ worker.held ++ [])
    simp
  order other := by
    show (_ ++ (worker.cursor other).lookahead.toList).Sublist _
    by_cases own : name = other
    · subst own
      simp [Act.rowThrough?, Act.given?, empty]
    · simp [Act.rowThrough?, Act.given?, own]

theorem entry_asked (worker : Worker ρ) (request : Request ρ) (reply : Reply ρ) :
    worker.Entry (.asked request reply) reply.row? (worker.report (.reply reply)) where
  names names := names
  slots _ := rfl
  collected := rfl
  outcomes := rfl
  rows := by
    have passed : (Act.asked request reply).row? = reply.row? := by cases reply <;> rfl
    show (worker.held ++ _).Perm (_ ++ worker.held ++ [])
    rw [passed, List.append_nil]
    exact List.perm_append_comm
  order other := by
    show (_ ++ (worker.cursor other).lookahead.toList).Sublist _
    cases reply <;> simp [Act.rowThrough?, Act.given?]

/-- A worker asks the channel on behalf of a cursor only for want of a row in that cursor's slot. -/
def Waits (worker : Worker ρ) : Prop :=
  match worker.todo with
  | .query name _ :: _ => (worker.cursor name).lookahead = none
  | .collect name :: _ => (worker.cursor name).lookahead = none
  | _ => True

theorem waits_settle (worker : Worker ρ) (operations : List (Operation ρ)) :
    (worker.settle operations).Waits := by
  fun_induction settle worker operations with
  | case1 worker => trivial
  | case2 worker name rest ih => exact ih
  | case3 worker name rest existed ih => exact ih
  | case4 worker name query rest answer cursor answered ih => exact ih
  | case5 worker name query rest waits => exact Option.map_eq_none_iff.mp waits
  | case6 worker name rest =>
      show ((worker.setCursor name .empty).cursor name).lookahead = none
      rw [cursor_setCursor, if_pos rfl]
      rfl
  | case7 worker request rest => trivial

theorem Waits.resume (waits : worker.Waits) (reply : Reply ρ) : (worker.resume reply).Waits := by
  unfold Worker.resume
  split
  · exact waits_settle _ _
  · exact waits_settle _ _
  · split
    · exact waits
    · exact waits_settle _ _
  · exact waits

theorem Books.settle (books : worker.Books acts taken) (operations : List (Operation ρ)) :
    (worker.settle operations).Books (acts ++ worker.settleActs operations) taken := by
  induction operations generalizing worker acts with
  | nil => simpa [Worker.settle, settleActs] using books.of_todo []
  | cons operation rest ih =>
      cases operation with
      | ask request => simpa [Worker.settle, settleActs] using books.of_todo _
      | openCursor name =>
          have opened := books.enter_own (entry_opened books.names name) (books.slots name)
          simpa [Worker.settle, settleActs] using ih opened
      | dropCursor name =>
          have dropped := books.enter_own
            (entry_dropped books.names name (worker.cursors.lookup name).isSome) (books.slots name)
          simpa [Worker.settle, settleActs] using ih dropped
      | query name query =>
          cases slot : (worker.cursor name).lookahead with
          | none => simpa [Worker.settle, settleActs, Cursor.answer?, slot] using books.of_todo _
          | some row =>
              have presented := books.enter_own (entry_presented books.names slot query) (by
                rw [Act.Follows, ← books.slots, slot])
              simpa [Worker.settle, settleActs, Cursor.answer?, slot] using ih presented
      | collect name =>
          exact books.enter_own (entry_began books.names name (.collect name :: rest))
            (books.slots name)

theorem Books.resume (books : worker.Books acts taken) (waits : worker.Waits)
    {request : Request ρ} (asks : worker.request = some request) (reply : Reply ρ) :
    (worker.resume reply).Books (acts ++ worker.resumeActs reply)
      (taken ++ reply.row?.toList) := by
  unfold Worker.resume resumeActs
  unfold Worker.request at asks
  unfold Waits at waits
  cases todo : worker.todo with
  | nil =>
      rw [todo] at asks
      cases asks
  | cons operation rest =>
      rw [todo] at asks waits
      cases operation with
      | ask request =>
          have asked := books.enter (entry_asked worker request reply) trivial
          simpa using asked.settle rest
      | query name query =>
          have answered := books.enter (entry_received books.names waits query reply) (by
            rw [Act.Follows, ← books.slots, waits]
            exact ⟨reply, rfl⟩)
          simpa using answered.settle rest
      | collect name =>
          have finished := books.enter_own (entry_finished books.names waits)
            ⟨(books.slots name).symm.trans waits, books.collected⟩
          cases reply with
          | row row =>
              have collected := books.enter (entry_collected waits row)
                ((books.slots name).symm.trans waits)
              rwa [todo] at collected
          | _ => simpa [Reply.row?] using finished.settle rest
      | openCursor name => cases asks
      | dropCursor name => cases asks

theorem books_start (operations : List (Operation ρ)) :
    (start operations).Books (settleActs ⟨[], [], [], []⟩ operations) [] := by
  have blank : (⟨[], [], [], []⟩ : Worker ρ).Books [] [] :=
    ⟨.nil, fun _ => rfl, rfl, rfl, .nil, fun _ => .slnil, by simp⟩
  exact blank.settle operations

end BindStream.Worker
