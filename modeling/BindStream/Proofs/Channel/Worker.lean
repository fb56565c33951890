import BindStream.Channel.Worker
import Mathlib.Data.List.Basic
import Mathlib.Data.List.Infix

namespace BindStream.Worker

/-! The outcomes of a worker, and its cursors by name. -/

variable {ρ : Type} {worker next : Worker ρ}

theorem outcomes_settle (worker : Worker ρ) (operations : List (Operation ρ)) :
    worker.outcomes <+: (worker.settle operations).outcomes := by
  fun_induction settle worker operations with
  | case1 worker => exact List.prefix_rfl
  | case2 worker name rest ih => exact (List.prefix_append _ _).trans ih
  | case3 worker name rest existed ih => exact (List.prefix_append _ _).trans ih
  | case4 worker name query rest answer cursor answered ih =>
      exact (List.prefix_append _ _).trans ih
  | case5 worker name query rest waits => exact List.prefix_rfl
  | case6 worker name rest => exact List.prefix_rfl
  | case7 worker request rest => exact List.prefix_rfl

theorem outcomes_settle_of_report {outcome : Outcome ρ}
    (reports : next.outcomes = worker.outcomes ++ [outcome]) (operations : List (Operation ρ)) :
    worker.outcomes <+: (next.settle operations).outcomes := by
  have reported : worker.outcomes <+: next.outcomes := reports ▸ List.prefix_append _ _
  exact reported.trans (outcomes_settle next operations)

theorem outcomes_resume (worker : Worker ρ) (reply : Reply ρ) :
    worker.outcomes <+: (worker.resume reply).outcomes := by
  unfold resume
  split
  · exact outcomes_settle_of_report rfl _
  · exact outcomes_settle_of_report rfl _
  · split
    · exact List.prefix_rfl
    · exact outcomes_settle_of_report rfl _
  · exact List.prefix_rfl

theorem lookup_filter (cursors : List (String × Cursor ρ)) (name other : String) :
    (cursors.filter (·.1 != name)).lookup other =
      if name = other then none else cursors.lookup other := by
  induction cursors with
  | nil => simp
  | cons entry cursors ih =>
      obtain ⟨key, cursor⟩ := entry
      by_cases dropped : key = name
      · subst dropped
        rw [List.filter_cons_of_neg (by simp), ih]
        by_cases same : key = other
        · simp [same]
        · simp [same, List.lookup_cons, beq_eq_false_iff_ne.mpr (Ne.symm same)]
      · rw [List.filter_cons_of_pos (by simpa using dropped), List.lookup_cons, ih,
          List.lookup_cons]
        by_cases same : other = key
        · subst same
          simp [Ne.symm dropped]
        · simp [beq_eq_false_iff_ne.mpr same]

theorem cursor_removeCursor (worker : Worker ρ) (name other : String) :
    (worker.removeCursor name).cursor other =
      if name = other then .empty else worker.cursor other := by
  rw [cursor, removeCursor, lookup_filter]
  split <;> rfl

theorem cursor_setCursor (worker : Worker ρ) (name other : String) (cursor : Cursor ρ) :
    (worker.setCursor name cursor).cursor other =
      if name = other then cursor else worker.cursor other := by
  rw [Worker.cursor, setCursor, List.lookup_cons]
  by_cases same : other = name
  · simp [same]
  · rw [beq_eq_false_iff_ne.mpr same, if_neg (Ne.symm same)]
    have removed := cursor_removeCursor worker name other
    rwa [if_neg (Ne.symm same)] at removed

end BindStream.Worker
