import BindStream.Proofs.Channel.Job
import BindStream.Proofs.Channel.Wakeup

namespace BindStream

/-! Systems in which no task can take a step. -/

variable {ρ σ : Type}

theorem Capacity.hasRoom_zero (capacity : Capacity) : capacity.hasRoom 0 = true := by
  cases capacity with
  | unbounded => rfl
  | bounded rows positive => simpa [hasRoom, rows?] using positive

theorem Task.ready_of_hasEnded {client : Client ρ σ} {task : Task ρ σ}
    (ended : task.hasEnded client = true) :
    ∃ job, task = ⟨job, .ready⟩ ∧ client.request job = none := by
  obtain ⟨job, phase⟩ := task
  cases phase with
  | ready => exact ⟨job, rfl, Option.isNone_iff_eq_none.mp ended⟩
  | _ => cases ended

namespace System

variable {client : Client ρ σ} {system : System ρ σ} {events : List (Event ρ)}
variable {capacity : Capacity} {jobs : List σ} {task : Task ρ σ}

theorem exists_deliver (system : System ρ σ) (signal : Signal) :
    ∃ sleeper next, system.deliver signal sleeper = some next := by
  cases signal with
  | all condition => exact ⟨none, _, rfl⟩
  | one condition =>
      by_cases sleeping : system.tasks.any (·.sleepsOn condition) = true
      · obtain ⟨task, member, sleeps⟩ := List.any_eq_true.mp sleeping
        obtain ⟨j, at_j⟩ := List.getElem?_of_mem member
        exact ⟨some j, _, Option.bind_eq_some_iff.mpr ⟨task, at_j, if_pos sleeps⟩⟩
      · exact ⟨none, _, if_neg sleeping⟩

theorem exists_advance {i : Nat} (at_i : system.tasks[i]? = some task)
    (awake : task.isAsleep = false) (busy : task.hasEnded client = false) :
    ∃ sleeper next, system.advance client i sleeper = some next := by
  obtain ⟨job, phase⟩ := task
  simp only [advance, at_i, Option.bind_eq_bind, Option.bind_some]
  cases phase with
  | ready =>
      obtain ⟨request, asked⟩ :=
        Option.isSome_iff_exists.mp (Option.isNone_eq_false_iff.mp busy)
      exact ⟨none, _, Option.bind_eq_some_iff.mpr ⟨request, asked, rfl⟩⟩
  | entering call wake =>
      refine ⟨none, ?_⟩
      dsimp only
      cases call.enter system.channel wake system.clock with
      | wait condition => exact ⟨_, rfl⟩
      | reply channel signals reply => exact ⟨_, rfl⟩
  | asleep call condition => cases awake
  | signalling signals reply =>
      cases signals with
      | nil => exact ⟨none, _, rfl⟩
      | cons signal signals => exact exists_deliver _ signal

def Stuck (client : Client ρ σ) (system : System ρ σ) : Prop :=
  ∀ i sleeper, system.advance client i sleeper = none

theorem Stuck.rests (stuck : system.Stuck client) (member : task ∈ system.tasks) :
    (∃ job, task = ⟨job, .ready⟩ ∧ client.request job = none) ∨
      ∃ call condition, task.phase = .asleep call condition := by
  obtain ⟨i, at_i⟩ := List.getElem?_of_mem member
  by_cases ended : task.hasEnded client = true
  · exact .inl (Task.ready_of_hasEnded ended)
  · refine .inr ?_
    cases asleep : task.isAsleep with
    | false =>
        obtain ⟨sleeper, next, moved⟩ :=
          exists_advance at_i asleep (Bool.eq_false_iff.mpr ended)
        cases (stuck i sleeper).symm.trans moved
    | true =>
        unfold Task.isAsleep at asleep
        split at asleep
        · next call condition phase => exact ⟨call, condition, phase⟩
        · cases asleep

/-- Where no task can take a step, the channel is open and has nothing on offer for those that
sleep. -/
theorem Run.onOffer_of_stuck (run : Run client (initial capacity jobs) events system)
    (stuck : system.Stuck client) (member : task ∈ system.tasks) {call : Call ρ}
    {condition : Condition} (asleep : task.phase = .asleep call condition) :
    system.channel.cancelled = false ∧ system.channel.available condition = 0 := by
  -- Tasks that sleep or have ended have no signals to send, and none has been notified.
  have quiet {other : Task ρ σ} (member : other ∈ system.tasks) (signal : Signal) :
      other.owes signal = false ∧ other.isNotified condition = false := by
    unfold Task.owes Task.isNotified
    rcases stuck.rests member with ⟨job, rfl, -⟩ | ⟨call, condition, asleep⟩
    · exact ⟨rfl, rfl⟩
    · simp only [asleep, and_self]
  have sleeping : system.tasks.any (·.sleepsOn condition) = true := by
    refine List.any_eq_true.mpr ⟨task, member, ?_⟩
    rw [Task.sleepsOn, asleep]
    exact beq_self_eq_true condition
  have announced := run.announced condition
  have ending := announced.ending sleeping
  rw [List.countP_eq_zero.mpr fun other member => Bool.eq_false_iff.mp (quiet member _).1] at ending
  have opened : system.channel.cancelled = false := by
    cases closed : system.channel.cancelled with
    | false => rfl
    | true => rw [closed] at ending; cases ending
  have offer := announced.offer sleeping
  have nobody : system.tasks.countP (Task.announces condition) = 0 := by
    refine List.countP_eq_zero.mpr fun other member => ?_
    rw [Task.announces, (quiet member _).1, (quiet member (.one condition)).2]
    exact Bool.false_ne_true
  rw [Channel.onOffer_of_open opened, nobody] at offer
  exact ⟨opened, Nat.le_zero.mp offer⟩

theorem Run.not_asleep_of_stuck (run : Run client (initial capacity jobs) events system)
    (stuck : system.Stuck client) (closed : system.channel.cancelled = true)
    (member : task ∈ system.tasks) {call : Call ρ} {condition : Condition} :
    task.phase ≠ .asleep call condition := by
  intro asleep
  cases (run.onOffer_of_stuck stuck member asleep).1.symm.trans closed

/-- What a task sleeps on is what its request waits for. -/
theorem Run.condition?_of_asleep (run : Run client (initial capacity jobs) events system)
    (member : task ∈ system.tasks) {call : Call ρ} {condition : Condition}
    (asleep : task.phase = .asleep call condition) :
    (client.request (task.outlook client)).bind Request.condition? = some condition := by
  obtain ⟨i, at_i⟩ := List.getElem?_of_mem member
  rw [(run.asks at_i).asleep asleep]
  exact (run.sleepsSoundly task member call condition asleep).1

/-- Where no task can take a step, it is not the case that one waits for a row and another one for
room. -/
theorem Run.condition_of_stuck (run : Run client (initial capacity jobs) events system)
    (stuck : system.Stuck client) {other : Task ρ σ} (member : task ∈ system.tasks)
    (listed : other ∈ system.tasks) {call : Call ρ} {condition : Condition}
    (asleep : task.phase = .asleep call condition) {next : Call ρ} {slept : Condition}
    (waits : other.phase = .asleep next slept) : condition = slept := by
  have clash {taker putter : Task ρ σ} (takes : taker ∈ system.tasks)
      (puts : putter ∈ system.tasks) {take put : Call ρ}
      (waitsForRow : taker.phase = .asleep take .notEmpty)
      (waitsForRoom : putter.phase = .asleep put .notFull) : False := by
    have empty : system.channel.queue.length = 0 :=
      (run.onOffer_of_stuck stuck takes waitsForRow).2
    have full : system.channel.capacity.free system.channel.queue.length = 0 :=
      (run.onOffer_of_stuck stuck puts waitsForRoom).2
    have bounded := (run.sleepsSoundly _ puts put .notFull waitsForRoom).2 rfl
    rw [empty] at full
    exact Nat.ne_of_gt (Capacity.free_pos bounded (Capacity.hasRoom_zero _)) full
  cases condition <;> cases slept
  · rfl
  · exact (clash member listed asleep waits).elim
  · exact (clash listed member waits asleep).elim
  · rfl

end System

end BindStream
