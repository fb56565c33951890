import BindStream.Proofs.Channel.Offer

namespace BindStream

/-! No wake-up is lost: if a task sleeps, what it waits for is missing or is about to be
announced. -/

variable {ρ σ : Type}

namespace Task

/-- Whether a task is through the lock and has a signal yet to send. -/
def owes (signal : Signal) (task : Task ρ σ) : Bool :=
  match task.phase with
  | .signalling signals _ => signals.contains signal
  | _ => false

/-- Whether a task has been notified of a condition and has not looked at the channel since. -/
def isNotified (condition : Condition) (task : Task ρ σ) : Bool :=
  match task.phase with
  | .entering call .notified => call.request.condition? == some condition
  | _ => false

/-- Whether a task is about to make use of a condition, or to tell one that sleeps on it. -/
def announces (condition : Condition) (task : Task ρ σ) : Bool :=
  task.owes (.one condition) || task.isNotified condition

end Task

/-- If a task sleeps on the condition, at least `needed` tasks are of the kind `p`. -/
def Covers (p : Task ρ σ → Bool) (condition : Condition) (needed : Nat)
    (tasks : List (Task ρ σ)) : Prop :=
  tasks.any (·.sleepsOn condition) = true → needed ≤ tasks.countP p

namespace Covers

variable {p : Task ρ σ → Bool} {condition : Condition} {needed remaining i : Nat}
variable {tasks : List (Task ρ σ)} {old new : Task ρ σ}

theorem zero : Covers p condition 0 tasks := fun _ => Nat.zero_le _

theorem countP_set (at_i : tasks[i]? = some old) (new : Task ρ σ) :
    (tasks.set i new).countP p + (p old).toNat = tasks.countP p + (p new).toNat := by
  obtain ⟨inRange, same⟩ := List.getElem?_eq_some_iff.mp at_i
  have counted : p old = true → 0 < tasks.countP p := fun marked =>
    List.countP_pos_iff.mpr ⟨old, List.mem_of_getElem? at_i, marked⟩
  rw [List.countP_set inRange, same]
  cases before : p old <;> cases p new <;> simp_all

/-- A task that changes keeps the others covered if it adds at least as much as it takes. -/
theorem set (covers : Covers p condition needed tasks) (at_i : tasks[i]? = some old)
    (sleeps : new.sleepsOn condition = true → old.sleepsOn condition = true)
    (budget : remaining + (p old).toNat ≤ needed + (p new).toNat) :
    Covers p condition remaining (tasks.set i new) := by
  intro sleeping
  obtain ⟨task, member, asleep⟩ := List.any_eq_true.mp sleeping
  have before : tasks.any (·.sleepsOn condition) = true := by
    rcases List.mem_or_eq_of_mem_set member with kept | rfl
    · exact List.any_eq_true.mpr ⟨task, kept, asleep⟩
    · exact List.any_eq_true.mpr ⟨old, List.mem_of_getElem? at_i, sleeps asleep⟩
  have enough := covers before
  have count := countP_set (p := p) at_i new
  omega

end Covers

namespace System

variable {client : Client ρ σ} {system next : System ρ σ} {condition : Condition}

theorem phase_initial {capacity : Capacity} {jobs : List σ} {task : Task ρ σ}
    (member : task ∈ (initial capacity jobs).tasks) : task.phase = .ready := by
  obtain ⟨job, -, rfl⟩ := List.mem_map.mp member
  rfl

/-- The sleepers wait for what their requests need, and for room only where it is bounded. -/
def SleepsSoundly (system : System ρ σ) : Prop :=
  ∀ task ∈ system.tasks, ∀ call condition, task.phase = .asleep call condition →
    call.request.condition? = some condition ∧
      (condition = .notFull → system.channel.capacity.rows? ≠ none)

theorem Run.sleepsSoundly {capacity : Capacity} {jobs : List σ} {events : List (Event ρ)}
    (run : Run client (initial capacity jobs) events system) : system.SleepsSoundly := by
  intro task member
  obtain ⟨i, at_i⟩ := List.getElem?_of_mem member
  refine run.forall_tasks (motive := fun _ channel _ task => ∀ call condition,
    task.phase = .asleep call condition → call.request.condition? = some condition ∧
      (condition = .notFull → channel.capacity.rows? ≠ none)) ?_ ?_ at_i
  · intro i task at_i call condition asleep
    rw [phase_initial (List.mem_of_getElem? at_i)] at asleep
    cases asleep
  · intro events channel next clock i event old new sound change
    cases change with
    | none others moved =>
        rw [moved.capacity]
        exact sound
    | sleep blocked =>
        rintro _ _ ⟨⟩
        exact ⟨blocked.condition?, blocked.bounded⟩
    | _ => rintro _ _ ⟨⟩

theorem Run.comesWith {capacity : Capacity} {jobs : List σ} {events : List (Event ρ)}
    (run : Run client (initial capacity jobs) events system) {task : Task ρ σ}
    (member : task ∈ system.tasks) {signals : List Signal} {reply : Reply ρ}
    (sending : task.phase = .signalling signals reply) :
    ∀ signal ∈ signals, signal.ComesWith reply := by
  obtain ⟨i, at_i⟩ := List.getElem?_of_mem member
  refine run.forall_tasks (motive := fun _ _ _ task => ∀ signals reply,
    task.phase = .signalling signals reply → ∀ signal ∈ signals, signal.ComesWith reply)
    ?_ ?_ at_i signals reply sending
  · intro i task at_i signals reply sending
    rw [phase_initial (List.mem_of_getElem? at_i)] at sending
    cases sending
  · intro events channel next clock i event old new before change
    cases change with
    | none others moved => exact before
    | complete answered =>
        rintro _ _ ⟨⟩
        obtain ⟨expired, -, served⟩ := Call.served_of_enter answered
        exact served.comesWith
    | sent =>
        rintro _ _ ⟨⟩
        exact fun signal later => before _ _ rfl signal (List.mem_cons_of_mem _ later)
    | _ => rintro _ _ ⟨⟩

end System

namespace Covers

variable {p : Task ρ σ → Bool} {condition : Condition} {needed : Nat}
variable {system next : System ρ σ} {signal : Signal} {sleeper : Option Nat}

theorem deliver (covers : Covers p condition needed system.tasks)
    (awake : ∀ job call slept, p ⟨job, .asleep call slept⟩ = false)
    (delivered : system.deliver signal sleeper = some next) :
    Covers p condition needed next.tasks := by
  cases signal with
  | one told =>
      rcases System.deliver_one_eq delivered with ⟨-, rfl⟩ | ⟨j, job, call, at_j, rfl⟩
      · exact covers
      · refine covers.set at_j (by rintro ⟨⟩) ?_
        rw [awake]
        exact Nat.add_le_add_left (Nat.zero_le _) needed
  | all told =>
      cases delivered
      intro sleeping
      obtain ⟨task, member, asleep⟩ := List.any_eq_true.mp sleeping
      obtain ⟨old, listed, rfl⟩ := List.mem_map.mp member
      have before : system.tasks.any (·.sleepsOn condition) = true := by
        refine List.any_eq_true.mpr ⟨old, listed, ?_⟩
        split at asleep
        · next sleeps =>
            obtain ⟨job, call, rfl, woken⟩ := Task.wake_of_sleepsOn sleeps .notified
            rw [woken] at asleep
            cases asleep
        · exact asleep
      refine Nat.le_trans (covers before) ?_
      rw [List.countP_map]
      refine List.countP_mono_left fun task _ counted => ?_
      rw [Function.comp, if_neg]
      · exact counted
      · intro sleeps
        obtain ⟨job, call, rfl, -⟩ := Task.wake_of_sleepsOn sleeps .notified
        rw [awake] at counted
        cases counted

theorem deliver_all
    (delivered : system.deliver (.all condition) sleeper = some next) :
    Covers p condition needed next.tasks := by
  cases delivered
  intro sleeping
  obtain ⟨task, member, asleep⟩ := List.any_eq_true.mp sleeping
  obtain ⟨old, -, rfl⟩ := List.mem_map.mp member
  split at asleep
  · next sleeps =>
      obtain ⟨job, call, rfl, woken⟩ := Task.wake_of_sleepsOn sleeps .notified
      rw [woken] at asleep
      cases asleep
  · contradiction

theorem deliver_one
    (covers : Covers (Task.announces condition) condition needed system.tasks)
    (sound : system.SleepsSoundly)
    (delivered : system.deliver (.one condition) sleeper = some next) :
    Covers (Task.announces condition) condition (needed + 1) next.tasks := by
  rcases System.deliver_one_eq delivered with ⟨noSleeper, rfl⟩ | ⟨j, job, call, at_j, rfl⟩
  · intro sleeping
    rw [noSleeper] at sleeping
    cases sleeping
  · have waits : call.request.condition? = some condition :=
      (sound _ (List.mem_of_getElem? at_j) call condition rfl).1
    have notified : Task.announces condition (⟨job, .entering call .notified⟩ : Task ρ σ) :=
      beq_iff_eq.mpr waits
    refine covers.set at_j (by rintro ⟨⟩) ?_
    rw [notified]
    exact Nat.le_refl _

end Covers

namespace System

variable {client : Client ρ σ} {system next : System ρ σ} {condition : Condition}

/-- Whatever an open channel has on offer for sleepers is announced, and so is its end. -/
structure Announced (system : System ρ σ) (condition : Condition) : Prop where
  offer : Covers (Task.announces condition) condition (system.channel.onOffer condition)
    system.tasks
  ending : Covers (Task.owes (.all condition)) condition system.channel.cancelled.toNat
    system.tasks

namespace Announced

theorem setTask (announced : system.Announced condition) {i : Nat} {old new : Task ρ σ}
    (at_i : system.tasks[i]? = some old)
    (sleeps : new.sleepsOn condition = true → old.sleepsOn condition = true)
    (offer : old.announces condition = new.announces condition)
    (ending : old.owes (.all condition) = new.owes (.all condition)) :
    (system.setTask i new).Announced condition where
  offer := announced.offer.set at_i sleeps (by rw [offer]; exact Nat.le_refl _)
  ending := announced.ending.set at_i sleeps (by rw [ending]; exact Nat.le_refl _)

theorem complete (announced : system.Announced condition) {i : Nat} {job : σ} {call : Call ρ}
    {wake : Wake} {channel : Channel ρ} {signals : List Signal} {reply : Reply ρ}
    (at_i : system.tasks[i]? = some ⟨job, .entering call wake⟩) {expired : Bool}
    (served : system.channel.Served expired call.request channel signals reply) :
    Announced { system.setTask i ⟨job, .signalling signals reply⟩ with channel := channel }
      condition where
  offer := by
    have waits : Task.announces condition (⟨job, .entering call wake⟩ : Task ρ σ) = true →
        call.request.condition? = some condition := by
      cases wake <;> simp [Task.announces, Task.owes, Task.isNotified]
    rcases served.onOffer waits with none | budget
    · change Covers _ condition (channel.onOffer condition) _
      rw [none]
      exact .zero
    · refine announced.offer.set at_i (by rintro ⟨⟩) ?_
      simpa [Task.announces, Task.owes, Task.isNotified] using budget
  ending := announced.ending.set at_i (by rintro ⟨⟩) served.cancelled_le

theorem sleep (announced : system.Announced condition) {i : Nat} {job : σ} {call : Call ρ}
    {wake : Wake} {slept : Condition}
    (at_i : system.tasks[i]? = some ⟨job, .entering call wake⟩)
    (blocked : system.channel.Blocked call.request slept) :
    (system.setTask i ⟨job, .asleep call slept⟩).Announced condition := by
  by_cases same : slept = condition
  · subst same
    constructor
    · change Covers _ slept (system.channel.onOffer slept) _
      rw [blocked.onOffer]
      exact .zero
    · change Covers _ slept system.channel.cancelled.toNat _
      rw [blocked.opened]
      exact .zero
  · refine announced.setTask at_i (fun sleeps => absurd (eq_of_beq sleeps) same) ?_ rfl
    have other : ¬call.request.condition? = some condition := fun waits =>
      same (Option.some.inj (blocked.condition?.symm.trans waits))
    cases wake <;> simp [Task.announces, Task.owes, Task.isNotified, other]

theorem notify (announced : system.Announced condition) (sound : system.SleepsSoundly)
    {i : Nat} {job : σ} {signal : Signal} {signals : List Signal} {reply : Reply ρ}
    {sleeper : Option Nat}
    (at_i : system.tasks[i]? = some ⟨job, .signalling (signal :: signals) reply⟩)
    (delivered :
      (system.setTask i ⟨job, .signalling signals reply⟩).deliver signal sleeper = some next) :
    next.Announced condition := by
  have kept : next.channel = system.channel := (silent_deliver delivered).channel
  have awake : ∀ job call slept,
      Task.announces condition (⟨job, .asleep call slept⟩ : Task ρ σ) = false :=
    fun _ _ _ => rfl
  have soundAfter : (system.setTask i ⟨job, .signalling signals reply⟩).SleepsSoundly := by
    intro task member call slept asleep
    rcases List.mem_or_eq_of_mem_set member with before | rfl
    · exact sound task before call slept asleep
    · cases asleep
  constructor
  · rw [kept]
    have offer := announced.offer
    by_cases told : signal = .one condition
    · subst told
      -- The signal is no longer owed, and as many tasks as before are on their way.
      cases needed : system.channel.onOffer condition with
      | zero => exact .zero
      | succ less =>
          rw [needed] at offer
          have one := (Task.announces condition
            (⟨job, .signalling (.one condition :: signals) reply⟩ : Task ρ σ)).toNat_le
          have owed : Covers (Task.announces condition) condition less
              (system.setTask i ⟨job, .signalling signals reply⟩).tasks :=
            offer.set at_i (by rintro ⟨⟩) (by omega)
          exact owed.deliver_one soundAfter delivered
    · have owed : Covers (Task.announces condition) condition
          (system.channel.onOffer condition)
          (system.setTask i ⟨job, .signalling signals reply⟩).tasks := by
        refine offer.set at_i (by rintro ⟨⟩) ?_
        simp [Task.announces, Task.owes, Task.isNotified, Ne.symm told]
      exact owed.deliver awake delivered
  · rw [kept]
    by_cases told : signal = .all condition
    · subst told
      exact Covers.deliver_all delivered
    · have owed : Covers (Task.owes (.all condition)) condition
          system.channel.cancelled.toNat
          (system.setTask i ⟨job, .signalling signals reply⟩).tasks := by
        refine announced.ending.set at_i (by rintro ⟨⟩) ?_
        simp [Task.owes, Ne.symm told]
      exact owed.deliver (fun _ _ _ => rfl) delivered

end Announced

theorem Effect.announced {event : Option (Event ρ)} (effect : Effect client system event next)
    (sound : system.SleepsSoundly) (announced : system.Announced condition) :
    next.Announced condition := by
  cases effect with
  | call at_i asked => exact announced.setTask at_i (by rintro ⟨⟩) rfl rfl
  | complete at_i answered =>
      obtain ⟨expired, -, served⟩ := Call.served_of_enter answered
      exact announced.complete at_i served
  | sleep at_i blocked => exact announced.sleep at_i (Call.blocked_of_enter blocked)
  | notify at_i delivered => exact announced.notify sound at_i delivered
  | giveBack at_i => exact announced.setTask at_i (by rintro ⟨⟩) rfl rfl
  | wake at_i due =>
      refine announced.setTask at_i (by rintro ⟨⟩) ?_ rfl
      rcases due with rfl | ⟨rfl, -⟩ <;> rfl
  | pass time => exact ⟨announced.offer, announced.ending⟩

theorem Run.announced {capacity : Capacity} {jobs : List σ} {events : List (Event ρ)}
    (run : Run client (initial capacity jobs) events system) (condition : Condition) :
    system.Announced condition := by
  induction run with
  | start =>
      have noSleeper :
          (initial (ρ := ρ) capacity jobs).tasks.any (·.sleepsOn condition) = false := by
        refine List.any_eq_false.mpr fun task member => ?_
        rw [Task.sleepsOn, phase_initial member]
        exact Bool.false_ne_true
      constructor <;> intro sleeping <;> rw [noSleeper] at sleeping <;> cases sleeping
  | step run moved ih => exact (effect_of_move moved).announced run.sleepsSoundly ih

theorem countP_announces_le (condition : Condition) (tasks : List (Task ρ σ)) :
    tasks.countP (Task.announces condition) ≤
      tasks.countP (Task.owes (.one condition)) +
        tasks.countP (Task.isNotified condition) := by
  induction tasks with
  | nil => exact Nat.le_refl 0
  | cons task tasks ih =>
      cases owed : task.owes (.one condition) <;>
        cases notified : task.isNotified condition <;>
          simp [Task.announces, owed, notified] <;> omega

theorem Announced.exists_announcer (announced : system.Announced condition)
    (sound : system.SleepsSoundly) {task : Task ρ σ} (member : task ∈ system.tasks)
    {call : Call ρ} (asleep : task.phase = .asleep call condition)
    (served : system.channel.attempt call.request false ≠ .wait condition) :
    ∃ other ∈ system.tasks, other.owes (.one condition) = true ∨
      other.owes (.all condition) = true ∨ other.isNotified condition = true := by
  have sleeping : system.tasks.any (·.sleepsOn condition) = true := by
    refine List.any_eq_true.mpr ⟨task, member, ?_⟩
    rw [Task.sleepsOn, asleep]
    exact beq_self_eq_true condition
  obtain ⟨waits, bounded⟩ := sound task member call condition asleep
  cases closed : system.channel.cancelled with
  | true =>
      have owed := announced.ending sleeping
      rw [closed] at owed
      obtain ⟨other, listed, owes⟩ := List.countP_pos_iff.mp owed
      exact ⟨other, listed, .inr (.inl owes)⟩
  | false =>
      have offered := Channel.onOffer_pos closed waits bounded served
      have announcers := Nat.lt_of_lt_of_le offered (announced.offer sleeping)
      obtain ⟨other, listed, announces⟩ := List.countP_pos_iff.mp announcers
      exact ⟨other, listed, (Bool.or_eq_true_iff.mp announces).imp_right .inr⟩

/-- No wake-up is lost. While a put sleeps and the channel is open, each free place is announced
by a take that has yet to notify, or by a put that has been notified and has yet to look, and no
put sleeps where room is unbounded; while a take sleeps, each row is announced. Once the channel
is cancelled, a task sleeps only as long as the cancellation has yet to tell it. So no task sleeps
that could go on unless some other is on its way to wake it, or to take what it waits for. -/
theorem no_wakeup_is_lost {capacity : Capacity} {jobs : List σ}
    (reached : Reachable client (initial capacity jobs) system) :
    (∀ rows, capacity.rows? = some rows → system.channel.cancelled = false →
      system.tasks.any (·.sleepsOn .notFull) = true →
        rows - system.channel.queue.length ≤
          system.tasks.countP (Task.owes (.one .notFull)) +
            system.tasks.countP (Task.isNotified .notFull)) ∧
    (capacity.rows? = none → system.tasks.any (·.sleepsOn .notFull) = false) ∧
    (system.channel.cancelled = false → system.tasks.any (·.sleepsOn .notEmpty) = true →
      system.channel.queue.length ≤
        system.tasks.countP (Task.owes (.one .notEmpty)) +
          system.tasks.countP (Task.isNotified .notEmpty)) ∧
    (system.channel.cancelled = true → ∀ condition,
      system.tasks.any (·.sleepsOn condition) = true →
        ∃ task ∈ system.tasks, task.owes (.all condition) = true) ∧
    (∀ task ∈ system.tasks, ∀ signals reply, task.phase = .signalling signals reply →
      ∀ signal ∈ signals, signal.ComesWith reply) ∧
    ∀ task ∈ system.tasks, ∀ call condition, task.phase = .asleep call condition →
      call.request.condition? = some condition ∧
        (system.channel.attempt call.request false ≠ .wait condition →
          ∃ other ∈ system.tasks, other.owes (.one condition) = true ∨
            other.owes (.all condition) = true ∨ other.isNotified condition = true) := by
  obtain ⟨events, run⟩ := reachable_iff_exists_run.mp reached
  have kept : system.channel.capacity = capacity :=
    run.invariant (motive := fun _ system => system.channel.capacity = capacity)
      rfl fun held progress => progress.capacity.trans held
  have sound := run.sleepsSoundly
  refine ⟨?_, ?_, ?_, ?_, fun task member signals reply => run.comesWith member, ?_⟩
  · intro rows bounded opened sleeping
    have offer := (run.announced .notFull).offer sleeping
    rw [Channel.onOffer_of_open opened, Channel.available, Capacity.free, kept, bounded] at offer
    exact Nat.le_trans offer (countP_announces_le .notFull system.tasks)
  · intro unbounded
    refine List.any_eq_false.mpr fun task member sleeps => ?_
    obtain ⟨job, call, rfl, -⟩ := Task.wake_of_sleepsOn sleeps .notified
    exact (sound _ member call .notFull rfl).2 rfl (kept ▸ unbounded)
  · intro opened sleeping
    have offer := (run.announced .notEmpty).offer sleeping
    rw [Channel.onOffer_of_open opened] at offer
    exact Nat.le_trans offer (countP_announces_le .notEmpty system.tasks)
  · intro closed condition sleeping
    have owed := (run.announced condition).ending sleeping
    rw [closed] at owed
    exact List.countP_pos_iff.mp owed
  · intro task member call condition asleep
    exact ⟨(sound task member call condition asleep).1, fun served =>
      (run.announced condition).exists_announcer sound member asleep served⟩

/-- A take has made room that it has yet to announce to the put that sleeps. -/
theorem no_wakeup_is_lost_when_crowded :
    ∃ system, Reachable Worker.client crowded system ∧
      system.channel.cancelled = false ∧ system.channel.queue = [] ∧
      system.tasks.any (·.sleepsOn .notFull) = true ∧
      1 - 0 ≤ system.tasks.countP (Task.owes (.one .notFull)) +
        system.tasks.countP (Task.isNotified .notFull) := by
  have run := Run.start.play
    (rfl : crowded.play Worker.client (crowdedMoves.take 8) = some (_, _))
  have reached := reachable_iff_exists_run.mpr ⟨_, run⟩
  exact ⟨_, reached, rfl, rfl, rfl, (no_wakeup_is_lost reached).1 1 rfl rfl rfl⟩

end System

end BindStream
