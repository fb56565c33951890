import BindStream.Proofs.Channel.Schedule

namespace BindStream

/-! Tasks that ask nothing more of a channel than to cancel it, and that once at most. They end in
whatever order they take their steps. -/

variable {ρ σ : Type}

namespace Task

/-- A task on its way to its end as `last`, with `calls` calls ahead of it. -/
inductive Leaving (client : Client ρ σ) (last : σ) : Task ρ σ → (calls : Nat) → Prop
  | ready {job : σ} (asks : client.request job = some .cancel)
      (ends : client.resume job .done = last) : Leaving client last ⟨job, .ready⟩ 1
  | entering {job : σ} {call : Call ρ} {wake : Wake} (asks : client.request job = some .cancel)
      (cancels : call.request = .cancel) (ends : client.resume job .done = last) :
      Leaving client last ⟨job, .entering call wake⟩ 1
  | signalling {job : σ} {signals : List Signal} {reply : Reply ρ} (few : signals.length ≤ 2)
      (asks : client.request job ≠ none) (ends : client.resume job reply = last) :
      Leaving client last ⟨job, .signalling signals reply⟩ 0
  | gone : Leaving client last ⟨last, .ready⟩ 0

variable {client : Client ρ σ} {last : σ} {task old new : Task ρ σ} {calls n : Nat}

theorem Leaving.calls_le (leaving : task.Leaving client last calls) : calls ≤ 1 := by
  cases leaving <;> simp

theorem Leaving.deadline?_eq_none (leaving : task.Leaving client last calls) :
    task.deadline? = none := by
  cases leaving <;> rfl

theorem Leaving.not_asleep (leaving : task.Leaving client last calls) (call : Call ρ)
    (condition : Condition) : task.phase ≠ .asleep call condition := by
  cases leaving <;> simp

theorem Leaving.credit_le (leaving : task.Leaving client last calls) :
    task.credit n ≤ 2 * n + 3 := by
  cases leaving with
  | signalling few asks ends =>
      have most := Nat.mul_le_mul_left n few
      simp only [credit, Phase.credit]
      omega
  | _ => simp [credit, Phase.credit]

theorem Leaving.eq_of_idle (leaving : task.Leaving client last calls)
    (idle : client.request task.job = none) : task = ⟨last, .ready⟩ := by
  cases leaving with
  | ready asks ends | entering asks cancels ends => cases asks.symm.trans idle
  | signalling few asks ends => exact absurd idle asks
  | gone => rfl

/-- A step takes a task on, and only the answer to its call counts as one. -/
theorem Change.leaving {channel next : Channel ρ} {clock i : Nat} {event : Option (Event ρ)}
    (change : Change client channel clock i event next old new)
    (leaving : old.Leaving client last calls) (idle : client.request last = Option.none) :
    ∃ left, new.Leaving client last left ∧
      (event.toList.filterMap (Event.of i Event.reply?)).length + left = calls := by
  cases change with
  | none others moved =>
      have quiet : event.toList.filterMap (Event.of i Event.reply?) = [] := by
        apply List.filterMap_eq_nil_iff.mpr
        intro shown member
        exact if_neg (others shown (Option.mem_toList.mp member))
      exact ⟨calls, leaving, by simp [quiet]⟩
  | call asked =>
      cases leaving with
      | ready asks ends =>
          cases asks.symm.trans asked
          exact ⟨1, .entering asks rfl ends, by simp [Event.of, Event.task, Event.reply?]⟩
      | gone => cases idle.symm.trans asked
  | complete answered =>
      cases leaving with
      | entering asks cancels ends =>
          obtain ⟨expired, -, served⟩ := Call.served_of_enter answered
          have few := served.length_signals
          rw [cancels] at served
          cases served.reply_of_cancel
          refine ⟨0, .signalling few ?_ ends, by simp [Event.of, Event.task, Event.reply?]⟩
          exact fun none => Option.some_ne_none _ (asks.symm.trans none)
  | sleep blocked =>
      cases leaving with
      | entering asks cancels ends =>
          rw [cancels] at blocked
          cases blocked
  | sent =>
      cases leaving with
      | signalling few asks ends =>
          exact ⟨0, .signalling (Nat.le_of_succ_le few) asks ends, rfl⟩
  | giveBack =>
      cases leaving with
      | signalling few asks ends =>
          subst ends
          exact ⟨0, .gone, by simp [Event.of, Event.task, Event.reply?]⟩
  | wake due => cases leaving

end Task

namespace System

variable {client : Client ρ σ} {start system : System ρ σ} {events : List (Event ρ)}
variable {last : Nat → σ} {n : Nat}

theorem Run.length_signals_le {capacity : Capacity} {jobs : List σ}
    (run : Run client (initial capacity jobs) events system) {i : Nat} {task : Task ρ σ}
    (at_i : system.tasks[i]? = some task) {signals : List Signal} {reply : Reply ρ}
    (sends : task.phase = .signalling signals reply) : signals.length ≤ 2 := by
  refine run.forall_tasks (motive := fun _ _ _ task => ∀ signals reply,
    task.phase = .signalling signals reply → signals.length ≤ 2) ?_ ?_ at_i signals reply sends
  · intro i task at_i signals reply sends
    rw [initial, List.getElem?_map, Option.map_eq_some_iff] at at_i
    obtain ⟨job, listed, rfl⟩ := at_i
    cases sends
  · intro events channel next clock i event old new before change signals reply sends
    cases change with
    | none others moved => exact before signals reply sends
    | complete answered =>
        cases sends
        obtain ⟨expired, -, served⟩ := Call.served_of_enter answered
        exact served.length_signals
    | sent =>
        cases sends
        exact Nat.le_of_succ_le (before _ _ rfl)
    | _ => cases sends

/-- A task that asks for nothing once it has been given the reply at hand. -/
theorem Run.leaving {capacity : Capacity} {jobs : List σ}
    (run : Run client (initial capacity jobs) events system) {i : Nat} {task : Task ρ σ}
    (at_i : system.tasks[i]? = some task) (idle : client.request (task.outlook client) = none) :
    task.Leaving client (task.outlook client) 0 := by
  have asks := run.asks at_i
  obtain ⟨job, phase⟩ := task
  cases phase with
  | ready => exact .gone
  | entering call wake => cases idle.symm.trans asks.1
  | asleep call condition => cases idle.symm.trans asks.1
  | signalling signals reply => exact .signalling (run.length_signals_le at_i rfl) asks rfl

/-- A system of tasks that all leave; the task at `i` ends as `last i`. -/
structure Leaving (client : Client ρ σ) (last : Nat → σ) (system : System ρ σ) : Prop where
  leaves : ∀ {i : Nat} {task : Task ρ σ}, system.tasks[i]? = some task →
    ∃ calls, task.Leaving client (last i) calls
  idle : ∀ i, client.request (last i) = none

theorem Leaving.run (leaving : start.Leaving client last) (run : Run client start events system)
    {i : Nat} {task : Task ρ σ} (at_i : system.tasks[i]? = some task) :
    ∃ calls, task.Leaving client (last i) calls ∧
      (events.filterMap (Event.of i Event.reply?)).length + calls ≤ 1 := by
  refine run.forall_tasks (motive := fun events _ i task => ∃ calls,
    task.Leaving client (last i) calls ∧
      (events.filterMap (Event.of i Event.reply?)).length + calls ≤ 1) ?_ ?_ at_i
  · intro i task at_i
    obtain ⟨calls, leaves⟩ := leaving.leaves at_i
    exact ⟨calls, leaves, by simpa using leaves.calls_le⟩
  · intro events channel next clock i event old new before change
    obtain ⟨calls, leaves, bound⟩ := before
    obtain ⟨left, leaves, count⟩ := change.leaving leaves (leaving.idle i)
    refine ⟨left, leaves, ?_⟩
    rw [List.filterMap_append, List.length_append]
    omega

theorem Leaving.trans (leaving : start.Leaving client last)
    (run : Run client start events system) : system.Leaving client last where
  leaves at_i := by
    obtain ⟨calls, leaves, -⟩ := leaving.run run at_i
    exact ⟨calls, leaves⟩
  idle := leaving.idle

theorem Leaving.nextDeadline_eq_none (leaving : system.Leaving client last) :
    system.nextDeadline = none := by
  apply System.nextDeadline_eq_none
  intro task member
  obtain ⟨i, at_i⟩ := List.getElem?_of_mem member
  obtain ⟨calls, leaves⟩ := leaving.leaves at_i
  exact leaves.deadline?_eq_none

/-- Where none of such tasks can take a step, all have ended. -/
theorem Leaving.eq_of_stuck (leaving : system.Leaving client last) (stuck : system.Stuck client)
    {i : Nat} {task : Task ρ σ} (at_i : system.tasks[i]? = some task) :
    task = ⟨last i, .ready⟩ := by
  obtain ⟨calls, leaves⟩ := leaving.leaves at_i
  rcases stuck.rests (List.mem_of_getElem? at_i) with ⟨job, rfl, idle⟩ | ⟨call, slept, asleep⟩
  · exact leaves.eq_of_idle idle
  · exact absurd asleep (leaves.not_asleep call slept)

theorem total_le {tasks : List (Task ρ σ)} {most : Nat}
    (bound : ∀ task ∈ tasks, task.credit n ≤ most) : total n tasks ≤ most * tasks.length := by
  induction tasks with
  | nil => simp [total]
  | cons task tasks ih =>
      have first := bound task List.mem_cons_self
      have rest := ih fun task member => bound task (List.mem_cons_of_mem _ member)
      rw [total, List.length_cons, Nat.mul_succ]
      omega

theorem Leaving.length_replies_le (leaving : start.Leaving client last)
    (run : Run client start events system) :
    (events.filterMap Event.reply?).length ≤ start.tasks.length := by
  rw [← Nat.mul_one start.tasks.length]
  apply length_filterMap_le_of_tasks fun shown => run.task_lt
  intro i inRange
  rw [← run.length_tasks] at inRange
  obtain ⟨calls, -, bound⟩ := leaving.run run (List.getElem?_eq_getElem inRange)
  exact (Nat.le_add_right _ calls).trans bound

/-- Such tasks end after a bounded number of steps. -/
theorem Leaving.advances_le (leaving : start.Leaving client last) {moves : List Move}
    (played : start.play client moves = some (events, system)) :
    moves.countP Move.advances ≤ 2 * ((2 * start.tasks.length + 3) * start.tasks.length) +
      moves.countP Move.rouses := by
  have steps := credit_play played
  have run : Run client start events system := Run.start.play played
  have few := leaving.length_replies_le run
  have paid := Nat.mul_le_mul_left (2 * start.tasks.length + 3) few
  have credit : start.credit ≤ (2 * start.tasks.length + 3) * start.tasks.length := by
    apply total_le
    intro task member
    obtain ⟨i, at_i⟩ := List.getElem?_of_mem member
    obtain ⟨calls, leaves⟩ := leaving.leaves at_i
    exact leaves.credit_le
  omega

end System

end BindStream
