import BindStream.Proofs.Channel.Cancellation
import BindStream.Proofs.Channel.Change

namespace BindStream

/-! What tasks make of the replies to their requests, whatever happens in between. -/

variable {ρ σ : Type}

namespace Task

/-- A task's job once it has been given the reply at hand. -/
def outlook (client : Client ρ σ) (task : Task ρ σ) : σ :=
  match task.phase with
  | .signalling _ reply => client.resume task.job reply
  | _ => task.job

/-- The call that a task has under way is its job's request, and comes to an end in time only if
that is bounded. -/
def Asks (client : Client ρ σ) (task : Task ρ σ) : Prop :=
  match task.phase with
  | .ready => True
  | .entering call wake =>
    client.request task.job = some call.request ∧
      (wake = .expired ∨ call.deadline ≠ none → call.request.within? ≠ none)
  | .asleep call _ =>
    client.request task.job = some call.request ∧
      (call.deadline ≠ none → call.request.within? ≠ none)
  | .signalling _ _ => client.request task.job ≠ none

/-- A step as it bears on a task's job: the answer to its request, or no part of it. -/
inductive Turn (client : Client ρ σ) (channel : Channel ρ) (i : Nat) :
    Option (Event ρ) → Channel ρ → σ → σ → Prop
  | others {event : Option (Event ρ)} {next : Channel ρ} {job : σ}
      (others : ∀ shown ∈ event, ∀ request reply, shown ≠ .completed i request reply)
      (moved : channel.Moved next) :
      Turn client channel i event next job job
  | answer {job : σ} {request : Request ρ} {expired : Bool} {next : Channel ρ}
      {signals : List Signal} {reply : Reply ρ}
      (asks : client.request job = some request)
      (patient : expired = true → request.within? ≠ none)
      (served : channel.Served expired request next signals reply) :
      Turn client channel i (some (.completed i request reply)) next job
        (client.resume job reply)

variable {client : Client ρ σ} {channel next : Channel ρ} {clock i : Nat}
variable {event : Option (Event ρ)} {task old new : Task ρ σ}

theorem Asks.ready (asks : task.Asks client) (idle : client.request task.job = none) :
    task.phase = .ready := by
  unfold Asks at asks
  split at asks
  · assumption
  · cases idle.symm.trans asks.1
  · cases idle.symm.trans asks.1
  · exact absurd idle asks

theorem Asks.asleep (asks : task.Asks client) {call : Call ρ} {condition : Condition}
    (asleep : task.phase = .asleep call condition) :
    client.request (task.outlook client) = some call.request := by
  rw [Asks, asleep] at asks
  rw [outlook, asleep]
  exact asks.1

/-- A task that never bounds its calls in time never waits for a deadline. -/
theorem Asks.deadline?_eq_none (asks : task.Asks client) (endless : ∀ request,
      client.request (task.outlook client) = some request → request.within? = none) :
    task.deadline? = none := by
  unfold deadline?
  split
  · next call condition asleep =>
      have requested := asks.asleep asleep
      rw [Asks, asleep] at asks
      by_contra limited
      exact asks.2 limited (endless _ requested)
  · rfl

theorem Change.asks (change : Change client channel clock i event next old new)
    (asks : old.Asks client) : new.Asks client := by
  cases change with
  | none others moved => exact asks
  | @call job request asked =>
      refine ⟨asked, fun limited unbounded => ?_⟩
      rcases limited with ⟨⟨⟩⟩ | limited
      exact limited (Option.map_eq_none_iff.mpr unbounded)
  | complete answered => exact fun idle => Option.some_ne_none _ (asks.1.symm.trans idle)
  | sleep blocked => exact ⟨asks.1, fun limited => asks.2 (.inr limited)⟩
  | sent => exact asks
  | giveBack => trivial
  | wake due =>
      refine ⟨asks.1, fun limited => asks.2 ?_⟩
      rcases limited with rfl | limited
      · intro unlimited
        have due := due rfl
        rw [unlimited] at due
        cases due
      · exact limited

theorem Change.turn (change : Change client channel clock i event next old new)
    (asks : old.Asks client) :
    Turn client channel i event next (old.outlook client) (new.outlook client) := by
  cases change with
  | none others moved =>
      refine .others (fun shown seen request reply same => ?_) moved
      exact others shown seen (by rw [same]; rfl)
  | complete answered =>
      obtain ⟨expired, late, served⟩ := Call.served_of_enter answered
      refine .answer asks.1 (fun elapsed => asks.2 ?_) served
      refine (late elapsed).imp_right fun due unlimited => ?_
      rw [unlimited] at due
      cases due
  | call asked => exact .others (by rintro _ ⟨⟩ _ _ ⟨⟩) (.inl rfl)
  | giveBack => exact .others (by rintro _ ⟨⟩ _ _ ⟨⟩) (.inl rfl)
  | sleep blocked => exact .others (by rintro _ ⟨⟩) (.inl rfl)
  | sent => exact .others (by rintro _ ⟨⟩) (.inl rfl)
  | wake due => exact .others (by rintro _ ⟨⟩) (.inl rfl)

end Task

namespace System

variable {client : Client ρ σ} {system next : System ρ σ} {events : List (Event ρ)}
variable {capacity : Capacity} {jobs : List σ}

theorem outlook_initial {i : Nat} {task : Task ρ σ}
    (at_i : (initial capacity jobs).tasks[i]? = some task) :
    task.Asks client ∧ jobs[i]? = some (task.outlook client) := by
  rw [initial, List.getElem?_map, Option.map_eq_some_iff] at at_i
  obtain ⟨job, listed, rfl⟩ := at_i
  exact ⟨trivial, listed⟩

theorem Run.asks (run : Run client (initial capacity jobs) events system) {i : Nat}
    {task : Task ρ σ} (at_i : system.tasks[i]? = some task) : task.Asks client :=
  run.forall_tasks (motive := fun _ _ _ task => task.Asks client)
    (fun at_i => (outlook_initial at_i).1) (fun asks change => change.asks asks) at_i

/-- What holds of every job at the start, and is kept when its request is answered and by whatever
else happens, holds of every job after every run. -/
theorem Run.forall_jobs {motive : List (Event ρ) → Channel ρ → Nat → σ → Prop}
    (run : Run client (initial capacity jobs) events system)
    (start : ∀ {i : Nat} {job : σ}, jobs[i]? = some job → motive [] (.empty capacity) i job)
    (step : ∀ {events : List (Event ρ)} {system : System ρ σ} {next : Channel ρ} {i : Nat}
      {event : Option (Event ρ)} {old new : σ},
      Run client (initial capacity jobs) events system → motive events system.channel i old →
        Task.Turn client system.channel i event next old new →
          motive (events ++ event.toList) next i new) :
    ∀ {i : Nat} {task : Task ρ σ}, system.tasks[i]? = some task →
      motive events system.channel i (task.outlook client) := by
  induction run with
  | start =>
      intro i task at_i
      exact start (outlook_initial at_i).2
  | step run moved ih =>
      intro i new at_i
      obtain ⟨old, before, change⟩ := (effect_of_move moved).change at_i
      exact step run (ih before) (change.turn (run.asks before))

end System

end BindStream
