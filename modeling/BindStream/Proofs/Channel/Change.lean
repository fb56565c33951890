import BindStream.Proofs.Channel.History

namespace BindStream

/-! What a step of a system does to a single task. -/

variable {ρ σ : Type}

/-- A channel is as before, or a request has been answered on it. -/
def Channel.Moved (channel next : Channel ρ) : Prop :=
  next = channel ∨ ∃ expired request signals reply,
    channel.Served expired request next signals reply

theorem Channel.Moved.cancelled {channel next : Channel ρ} (moved : channel.Moved next)
    (closed : channel.cancelled = true) : next.cancelled = true := by
  rcases moved with rfl | ⟨_, _, _, _, served⟩
  · exact closed
  · cases served <;> first | exact closed | rfl

theorem Channel.Moved.drained {channel next : Channel ρ} (moved : channel.Moved next)
    (closed : channel.cancelled = true) (empty : channel.queue = []) :
    next.cancelled = true ∧ next.queue = [] := by
  refine ⟨moved.cancelled closed, ?_⟩
  rcases moved with rfl | ⟨_, _, _, _, served⟩
  · exact empty
  · cases served with
    | stored opened room => cases opened.symm.trans closed
    | taken takes oldest => cases empty.symm.trans oldest
    | _ => exact empty

namespace Task

/-- One task's part in a step: a move of its own, the end of its sleep, or no part at all. -/
inductive Change (client : Client ρ σ) (channel : Channel ρ) (clock i : Nat) :
    Option (Event ρ) → Channel ρ → Task ρ σ → Task ρ σ → Prop
  | none {event : Option (Event ρ)} {next : Channel ρ} {task : Task ρ σ}
      (others : ∀ shown ∈ event, shown.task ≠ i) (moved : channel.Moved next) :
      Change client channel clock i event next task task
  | call {job : σ} {request : Request ρ} (asked : client.request job = some request) :
      Change client channel clock i (some (.called i request)) channel
        ⟨job, .ready⟩ ⟨job, .entering (.start request clock) .first⟩
  | complete {job : σ} {call : Call ρ} {wake : Wake} {next : Channel ρ}
      {signals : List Signal} {reply : Reply ρ}
      (answered : call.enter channel wake clock = .reply next signals reply) :
      Change client channel clock i (some (.completed i call.request reply)) next
        ⟨job, .entering call wake⟩ ⟨job, .signalling signals reply⟩
  | sleep {job : σ} {call : Call ρ} {wake : Wake} {condition : Condition}
      (blocked : channel.Blocked call.request condition) :
      Change client channel clock i Option.none channel
        ⟨job, .entering call wake⟩ ⟨job, .asleep call condition⟩
  | sent {job : σ} {signal : Signal} {signals : List Signal} {reply : Reply ρ} :
      Change client channel clock i Option.none channel
        ⟨job, .signalling (signal :: signals) reply⟩ ⟨job, .signalling signals reply⟩
  | giveBack {job : σ} {reply : Reply ρ} :
      Change client channel clock i (some (.returned i reply)) channel
        ⟨job, .signalling [] reply⟩ ⟨client.resume job reply, .ready⟩
  | wake {job : σ} {call : Call ρ} {condition : Condition} {cause : Wake}
      (due : cause = .expired → call.deadline.any (· ≤ clock) = true) :
      Change client channel clock i Option.none channel
        ⟨job, .asleep call condition⟩ ⟨job, .entering call cause⟩

theorem wake_of_sleepsOn {task : Task ρ σ} {condition : Condition}
    (sleeps : task.sleepsOn condition = true) (cause : Wake) :
    ∃ job call, task = ⟨job, .asleep call condition⟩ ∧
      task.wake cause = ⟨job, .entering call cause⟩ := by
  obtain ⟨job, phase⟩ := task
  cases phase with
  | asleep call slept =>
      cases eq_of_beq sleeps
      exact ⟨job, call, rfl, rfl⟩
  | _ => cases sleeps

end Task

namespace System

variable {client : Client ρ σ} {system next : System ρ σ}

theorem setTask_task {i j : Nat} {old new task : Task ρ σ}
    (at_j : system.tasks[j]? = some old)
    (at_i : (system.setTask j new).tasks[i]? = some task) :
    (j = i ∧ system.tasks[i]? = some old ∧ task = new) ∨
      (j ≠ i ∧ system.tasks[i]? = some task) := by
  rw [tasks_setTask at_j] at at_i
  split at at_i
  · next same =>
      cases at_i
      exact .inl ⟨same.symm, same ▸ at_j, rfl⟩
  · next other => exact .inr ⟨Ne.symm other, at_i⟩

theorem deliver_one_eq {condition : Condition} {sleeper : Option Nat}
    (delivered : system.deliver (.one condition) sleeper = some next) :
    (system.tasks.any (·.sleepsOn condition) = false ∧ next = system) ∨
      ∃ j job call, system.tasks[j]? = some ⟨job, .asleep call condition⟩ ∧
        next = system.setTask j ⟨job, .entering call .notified⟩ := by
  cases sleeper with
  | none =>
      change (if system.tasks.any (·.sleepsOn condition) = true then none
        else some system) = some next at delivered
      split at delivered
      · cases delivered
      · next noSleeper =>
          cases delivered
          exact .inl ⟨Bool.eq_false_iff.mpr noSleeper, rfl⟩
  | some j =>
      obtain ⟨task, at_j, delivered⟩ := Option.bind_eq_some_iff.mp delivered
      split at delivered
      · next sleeps =>
          cases delivered
          obtain ⟨job, call, rfl, woken⟩ := Task.wake_of_sleepsOn sleeps .notified
          exact .inr ⟨j, job, call, at_j, by rw [woken]⟩
      · cases delivered

theorem deliver_task {signal : Signal} {sleeper : Option Nat}
    (delivered : system.deliver signal sleeper = some next) {i : Nat} {new : Task ρ σ}
    (at_i : next.tasks[i]? = some new) :
    system.tasks[i]? = some new ∨ ∃ job call condition,
      system.tasks[i]? = some ⟨job, .asleep call condition⟩ ∧
        new = ⟨job, .entering call .notified⟩ := by
  cases signal with
  | one condition =>
      rcases deliver_one_eq delivered with ⟨-, rfl⟩ | ⟨j, job, call, at_j, rfl⟩
      · exact .inl at_i
      · rcases setTask_task at_j at_i with ⟨rfl, before, rfl⟩ | ⟨-, before⟩
        · exact .inr ⟨job, call, condition, before, rfl⟩
        · exact .inl before
  | all condition =>
      cases delivered
      simp only [List.getElem?_map, Option.map_eq_some_iff] at at_i
      obtain ⟨task, at_i, rfl⟩ := at_i
      split
      · next sleeps =>
          obtain ⟨job, call, rfl, woken⟩ := Task.wake_of_sleepsOn sleeps .notified
          exact .inr ⟨job, call, condition, at_i, woken⟩
      · exact .inl at_i

theorem length_deliver {signal : Signal} {sleeper : Option Nat}
    (delivered : system.deliver signal sleeper = some next) :
    next.tasks.length = system.tasks.length := by
  cases signal with
  | one condition =>
      rcases deliver_one_eq delivered with ⟨-, rfl⟩ | ⟨j, job, call, at_j, rfl⟩
      · rfl
      · exact List.length_set
  | all condition =>
      cases delivered
      exact List.length_map _

theorem Effect.length_tasks {event : Option (Event ρ)}
    (effect : Effect client system event next) : next.tasks.length = system.tasks.length := by
  cases effect with
  | notify at_i delivered => exact (length_deliver delivered).trans List.length_set
  | pass time => rfl
  | _ => exact List.length_set

/-- Every task of the next system is one of the system, with its part in the step. -/
theorem Effect.change {event : Option (Event ρ)} (effect : Effect client system event next)
    {i : Nat} {new : Task ρ σ} (at_i : next.tasks[i]? = some new) :
    ∃ old, system.tasks[i]? = some old ∧
      Task.Change client system.channel system.clock i event next.channel old new := by
  cases effect with
  | @call j job request at_j asked =>
      rcases setTask_task at_j at_i with ⟨rfl, before, rfl⟩ | ⟨other, before⟩
      · exact ⟨_, before, .call asked⟩
      · exact ⟨_, before, .none (by rintro _ ⟨⟩; exact other) (.inl rfl)⟩
  | @complete j job call wake channel signals reply at_j answered =>
      rcases setTask_task at_j at_i with ⟨rfl, before, rfl⟩ | ⟨other, before⟩
      · exact ⟨_, before, .complete answered⟩
      · obtain ⟨expired, -, served⟩ := Call.served_of_enter answered
        have moved : system.channel.Moved channel := .inr ⟨expired, _, _, _, served⟩
        exact ⟨_, before, .none (by rintro _ ⟨⟩; exact other) moved⟩
  | @sleep j job call wake condition at_j blocked =>
      rcases setTask_task at_j at_i with ⟨rfl, before, rfl⟩ | ⟨-, before⟩
      · exact ⟨_, before, .sleep (Call.blocked_of_enter blocked)⟩
      · exact ⟨_, before, .none (by rintro _ ⟨⟩) (.inl rfl)⟩
  | @notify j job signal signals reply sleeper next at_j delivered =>
      rw [(silent_deliver delivered).channel]
      rcases deliver_task delivered at_i with sent | ⟨job', call, condition, sent, rfl⟩
      · rcases setTask_task at_j sent with ⟨rfl, before, rfl⟩ | ⟨-, before⟩
        · exact ⟨_, before, .sent⟩
        · exact ⟨_, before, .none (by rintro _ ⟨⟩) (.inl rfl)⟩
      · rcases setTask_task at_j sent with ⟨-, -, asleep⟩ | ⟨-, before⟩
        · -- The sender itself is awake, and no signal reaches it.
          cases asleep
        · exact ⟨_, before, .wake (by rintro ⟨⟩)⟩
  | @giveBack j job reply at_j =>
      rcases setTask_task at_j at_i with ⟨rfl, before, rfl⟩ | ⟨other, before⟩
      · exact ⟨_, before, .giveBack⟩
      · exact ⟨_, before, .none (by rintro _ ⟨⟩; exact other) (.inl rfl)⟩
  | @wake j job call condition cause at_j due =>
      rcases setTask_task at_j at_i with ⟨rfl, before, rfl⟩ | ⟨-, before⟩
      · refine ⟨_, before, .wake fun expired => ?_⟩
        exact (due.resolve_left (by rw [expired]; rintro ⟨⟩)).2
      · exact ⟨_, before, .none (by rintro _ ⟨⟩) (.inl rfl)⟩
  | pass time => exact ⟨_, at_i, .none (by rintro _ ⟨⟩) (.inl rfl)⟩

/-- What holds of every task at the start, and is kept in every part that a task can have in a
step, holds of every task after every run. -/
theorem Run.forall_tasks {motive : List (Event ρ) → Channel ρ → Nat → Task ρ σ → Prop}
    {start : System ρ σ} {events : List (Event ρ)} (run : Run client start events system)
    (initial : ∀ {i : Nat} {task : Task ρ σ}, start.tasks[i]? = some task →
      motive [] start.channel i task)
    (step : ∀ {events : List (Event ρ)} {channel next : Channel ρ} {clock i : Nat}
      {event : Option (Event ρ)} {old new : Task ρ σ}, motive events channel i old →
      Task.Change client channel clock i event next old new →
        motive (events ++ event.toList) next i new) :
    ∀ {i : Nat} {task : Task ρ σ}, system.tasks[i]? = some task →
      motive events system.channel i task := by
  induction run with
  | start => exact initial
  | step run moved ih =>
      intro i new at_i
      obtain ⟨old, before, change⟩ := (effect_of_move moved).change at_i
      exact step (ih before) change

theorem Effect.task_lt {event : Option (Event ρ)} (effect : Effect client system event next)
    {shown : Event ρ} (seen : shown ∈ event) : shown.task < system.tasks.length := by
  cases effect with
  | call at_i | complete at_i | giveBack at_i =>
      cases seen
      exact (List.getElem?_eq_some_iff.mp at_i).1
  | _ => cases seen

theorem Run.length_tasks {start : System ρ σ} {events : List (Event ρ)}
    (run : Run client start events system) :
    system.tasks.length = start.tasks.length := by
  induction run with
  | start => rfl
  | step run moved ih => exact (effect_of_move moved).length_tasks.trans ih

theorem Run.task_lt {start : System ρ σ} {events : List (Event ρ)}
    (run : Run client start events system) {shown : Event ρ} (seen : shown ∈ events) :
    shown.task < start.tasks.length := by
  induction run with
  | start => cases seen
  | step run moved ih =>
      rcases List.mem_append.mp seen with before | last
      · exact ih before
      · rw [← run.length_tasks]
        exact (effect_of_move moved).task_lt (Option.mem_toList.mp last)

end System

end BindStream
