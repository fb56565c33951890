import BindStream.Channel.System

namespace BindStream

/-! What one step of a system of tasks can do to its channel and to the calls on it. -/

variable {ρ σ : Type}

def Request.takes : Request ρ → Bool
  | take _ => true
  | tryTake => true
  | _ => false

namespace Channel

/-- The ways in which a request is answered behind the lock. -/
inductive Served (channel : Channel ρ) (expired : Bool) :
    Request ρ → Channel ρ → List Signal → Reply ρ → Prop
  | stored {row : ρ} {within : Option Nat}
      (opened : channel.cancelled = false)
      (room : channel.capacity.hasRoom channel.queue.length = true) :
      Served channel expired (.put row within)
        { channel with queue := channel.queue ++ [row] } [.one .notEmpty] .stored
  | putCancelled {row : ρ} {within : Option Nat}
      (closed : channel.cancelled = true) :
      Served channel expired (.put row within) channel [] (.refused row .cancelled)
  | putTimedOut {row : ρ} {within : Option Nat}
      (opened : channel.cancelled = false)
      (full : channel.capacity.hasRoom channel.queue.length = false)
      (elapsed : expired = true) :
      Served channel expired (.put row within) channel [] (.refused row .timedOut)
  | taken {request : Request ρ} {row : ρ} {queue : List ρ}
      (takes : request.takes = true) (oldest : channel.queue = row :: queue) :
      Served channel expired request
        { channel with queue := queue } [.one .notFull] (.row row)
  | takeCancelled {request : Request ρ}
      (takes : request.takes = true) (empty : channel.queue = [])
      (closed : channel.cancelled = true) :
      Served channel expired request channel [] (.failed .cancelled)
  | takeTimedOut {within : Option Nat}
      (empty : channel.queue = []) (opened : channel.cancelled = false)
      (elapsed : expired = true) :
      Served channel expired (.take within) channel [] (.failed .timedOut)
  | absent (empty : channel.queue = []) (opened : channel.cancelled = false) :
      Served channel expired .tryTake channel [] .absent
  | cancelled (opened : channel.cancelled = false) :
      Served channel expired .cancel
        { channel with cancelled := true } [.all .notEmpty, .all .notFull] .done
  | cancelledBefore (closed : channel.cancelled = true) :
      Served channel expired .cancel channel [] .done
  | inspected :
      Served channel expired .inspect channel []
        (.status channel.queue.length channel.cancelled)

variable {channel next : Channel ρ} {expired : Bool} {signals : List Signal}
variable {reply : Reply ρ} {request : Request ρ}

theorem served_of_put {row : ρ} {within : Option Nat}
    (answered : channel.put row expired = .reply next signals reply) :
    Served channel expired (.put row within) next signals reply := by
  unfold put at answered
  split at answered
  · next closed =>
      cases answered
      exact .putCancelled closed
  · next opened =>
      have opened := Bool.eq_false_iff.mpr opened
      split at answered
      · next room =>
          cases answered
          exact .stored opened room
      · next full =>
          split at answered
          · next elapsed =>
              cases answered
              exact .putTimedOut opened (Bool.eq_false_iff.mpr full) elapsed
          · cases answered

theorem served_of_take {within : Option Nat}
    (answered : channel.take expired = .reply next signals reply) :
    Served channel expired (.take within) next signals reply := by
  unfold take at answered
  split at answered
  · next oldest =>
      cases answered
      exact .taken rfl oldest
  · next empty =>
      split at answered
      · next closed =>
          cases answered
          exact .takeCancelled rfl empty closed
      · next opened =>
          split at answered
          · next elapsed =>
              cases answered
              exact .takeTimedOut empty (Bool.eq_false_iff.mpr opened) elapsed
          · cases answered

theorem served_of_tryTake (answered : channel.tryTake = .reply next signals reply) :
    Served channel expired .tryTake next signals reply := by
  unfold tryTake at answered
  split at answered
  · next oldest =>
      cases answered
      exact .taken rfl oldest
  · next empty =>
      split at answered
      · next closed =>
          cases answered
          exact .takeCancelled rfl empty closed
      · next opened =>
          cases answered
          exact .absent empty (Bool.eq_false_iff.mpr opened)

theorem served_of_cancel (answered : channel.cancel = .reply next signals reply) :
    Served channel expired .cancel next signals reply := by
  unfold cancel at answered
  split at answered
  · next closed =>
      cases answered
      exact .cancelledBefore closed
  · next opened =>
      cases answered
      exact .cancelled (Bool.eq_false_iff.mpr opened)

theorem served_of_attempt
    (answered : channel.attempt request expired = .reply next signals reply) :
    Served channel expired request next signals reply := by
  cases request with
  | put row within => exact served_of_put answered
  | take within => exact served_of_take answered
  | tryTake => exact served_of_tryTake answered
  | cancel => exact served_of_cancel answered
  | inspect =>
      cases answered
      exact .inspected

/-- The ways in which a request has to wait. -/
inductive Blocked (channel : Channel ρ) : Request ρ → Condition → Prop
  | put {row : ρ} {within : Option Nat} (opened : channel.cancelled = false)
      (full : channel.capacity.hasRoom channel.queue.length = false) :
      Blocked channel (.put row within) .notFull
  | take {within : Option Nat} (opened : channel.cancelled = false)
      (empty : channel.queue = []) :
      Blocked channel (.take within) .notEmpty

variable {condition : Condition}

theorem blocked_of_attempt (waits : channel.attempt request expired = .wait condition) :
    channel.Blocked request condition := by
  cases request with
  | put row within =>
      simp only [attempt, put] at waits
      repeat' split at waits
      all_goals cases waits
      next opened full _ =>
        exact .put (Bool.eq_false_iff.mpr opened) (Bool.eq_false_iff.mpr full)
  | take within =>
      simp only [attempt, take] at waits
      repeat' split at waits
      all_goals cases waits
      next empty opened _ => exact .take (Bool.eq_false_iff.mpr opened) empty
  | tryTake =>
      simp only [attempt, tryTake] at waits
      repeat' split at waits
      all_goals cases waits
  | cancel =>
      simp only [attempt, cancel] at waits
      split at waits <;> cases waits
  | inspect => cases waits

theorem Blocked.opened (blocked : channel.Blocked request condition) :
    channel.cancelled = false := by
  cases blocked <;> assumption

end Channel

theorem Call.blocked_of_enter {call : Call ρ} {channel : Channel ρ} {wake : Wake}
    {clock : Nat} {condition : Condition}
    (waits : call.enter channel wake clock = .wait condition) :
    channel.Blocked call.request condition := by
  unfold Call.enter at waits
  split at waits
  · split at waits
    · exact Channel.blocked_of_attempt waits
    · next blocked _ =>
        cases waits
        exact Channel.blocked_of_attempt blocked
  · exact Channel.blocked_of_attempt waits

theorem Call.served_of_enter {call : Call ρ} {channel next : Channel ρ} {wake : Wake}
    {clock : Nat} {signals : List Signal} {reply : Reply ρ}
    (answered : call.enter channel wake clock = .reply next signals reply) :
    ∃ expired,
      (expired = true → wake = .expired ∨ call.deadline.any (· < clock) = true) ∧
        channel.Served expired call.request next signals reply := by
  unfold Call.enter at answered
  split at answered
  · split at answered
    · next late =>
        exact ⟨true, fun _ => .inr late, Channel.served_of_attempt answered⟩
    · cases answered
  · refine ⟨wake == .expired, fun elapsed => .inl (eq_of_beq elapsed), ?_⟩
    exact Channel.served_of_attempt answered

namespace Phase

def call? : Phase ρ → Option (Call ρ)
  | entering call _ => some call
  | asleep call _ => some call
  | _ => none

def inHand? : Phase ρ → Option (Reply ρ)
  | signalling _ reply => some reply
  | _ => none

end Phase

namespace Task

theorem call?_wake (task : Task ρ σ) (cause : Wake) :
    (task.wake cause).phase.call? = task.phase.call? := by
  obtain ⟨job, phase⟩ := task
  cases phase <;> rfl

theorem inHand?_wake (task : Task ρ σ) (cause : Wake) :
    (task.wake cause).phase.inHand? = task.phase.inHand? := by
  obtain ⟨job, phase⟩ := task
  cases phase <;> rfl

end Task

/-! The calls of a system's tasks, by their events. -/

inductive Event (ρ : Type)
  | called (task : Nat) (request : Request ρ)
  /-- A call has come to its reply behind the lock. -/
  | completed (task : Nat) (request : Request ρ) (reply : Reply ρ)
  | returned (task : Nat) (reply : Reply ρ)
  deriving DecidableEq, Repr

namespace System

variable {client : Client ρ σ} {system next : System ρ σ}

def taskEvent? (client : Client ρ σ) (system : System ρ σ) (i : Nat) (job : σ) :
    Phase ρ → Option (Event ρ)
  | .ready => (client.request job).map (.called i)
  | .entering call wake =>
    match call.enter system.channel wake system.clock with
    | .wait _ => none
    | .reply _ _ reply => some (.completed i call.request reply)
  | .asleep _ _ => none
  | .signalling [] reply => some (.returned i reply)
  | .signalling (_ :: _) _ => none

def event? (client : Client ρ σ) (system : System ρ σ) : Move → Option (Event ρ)
  | .advance i _ =>
    system.tasks[i]?.bind fun task => system.taskEvent? client i task.job task.phase
  | _ => none

/-- The steps that a system can take, with what they show. -/
inductive Effect (client : Client ρ σ) (system : System ρ σ) :
    Option (Event ρ) → System ρ σ → Prop
  | call {i : Nat} {job : σ} {request : Request ρ}
      (at_i : system.tasks[i]? = some ⟨job, .ready⟩)
      (asked : client.request job = some request) :
      Effect client system (some (.called i request))
        (system.setTask i ⟨job, .entering (.start request system.clock) .first⟩)
  | complete {i : Nat} {job : σ} {call : Call ρ} {wake : Wake} {channel : Channel ρ}
      {signals : List Signal} {reply : Reply ρ}
      (at_i : system.tasks[i]? = some ⟨job, .entering call wake⟩)
      (answered :
        call.enter system.channel wake system.clock = .reply channel signals reply) :
      Effect client system (some (.completed i call.request reply))
        { system.setTask i ⟨job, .signalling signals reply⟩ with channel := channel }
  | sleep {i : Nat} {job : σ} {call : Call ρ} {wake : Wake} {condition : Condition}
      (at_i : system.tasks[i]? = some ⟨job, .entering call wake⟩)
      (blocked : call.enter system.channel wake system.clock = .wait condition) :
      Effect client system none (system.setTask i ⟨job, .asleep call condition⟩)
  | notify {i : Nat} {job : σ} {signal : Signal} {signals : List Signal}
      {reply : Reply ρ} {sleeper : Option Nat} {next : System ρ σ}
      (at_i : system.tasks[i]? = some ⟨job, .signalling (signal :: signals) reply⟩)
      (delivered :
        (system.setTask i ⟨job, .signalling signals reply⟩).deliver signal sleeper =
          some next) :
      Effect client system none next
  | giveBack {i : Nat} {job : σ} {reply : Reply ρ}
      (at_i : system.tasks[i]? = some ⟨job, .signalling [] reply⟩) :
      Effect client system (some (.returned i reply))
        (system.setTask i ⟨client.resume job reply, .ready⟩)
  | wake {i : Nat} {job : σ} {call : Call ρ} {condition : Condition} {cause : Wake}
      (at_i : system.tasks[i]? = some ⟨job, .asleep call condition⟩)
      (due : cause = .spurious ∨
        cause = .expired ∧ call.deadline.any (· ≤ system.clock) = true) :
      Effect client system none (system.setTask i ⟨job, .entering call cause⟩)
  | pass (time : Nat) : Effect client system none (system.pass time)

theorem effect_of_advance {i : Nat} {sleeper : Option Nat}
    (moved : system.advance client i sleeper = some next) :
    Effect client system (system.event? client (.advance i sleeper)) next := by
  obtain ⟨⟨job, phase⟩, at_i, moved⟩ := Option.bind_eq_some_iff.mp moved
  have shown : system.event? client (.advance i sleeper) =
      system.taskEvent? client i job phase := by
    rw [event?, at_i, Option.bind_some]
  rw [shown]
  cases phase with
  | ready =>
      obtain ⟨request, asked, moved⟩ := Option.bind_eq_some_iff.mp moved
      cases moved
      simp only [taskEvent?, asked, Option.map_some]
      exact .call at_i asked
  | entering call wake =>
      cases answered : call.enter system.channel wake system.clock with
      | wait condition =>
          simp only [answered, Option.some.injEq] at moved
          subst moved
          simp only [taskEvent?, answered]
          exact .sleep at_i answered
      | reply channel signals reply =>
          simp only [answered, Option.some.injEq] at moved
          subst moved
          simp only [taskEvent?, answered]
          exact .complete at_i answered
  | asleep call condition => cases moved
  | signalling signals reply =>
      cases signals with
      | nil =>
          cases moved
          exact .giveBack at_i
      | cons signal signals => exact .notify at_i moved

theorem effect_of_expire {i : Nat} (moved : system.expire i = some next) :
    Effect client system none next := by
  obtain ⟨⟨job, phase⟩, at_i, moved⟩ := Option.bind_eq_some_iff.mp moved
  split at moved
  · next due =>
      cases phase with
      | asleep call condition =>
          cases moved
          exact .wake at_i (.inr ⟨rfl, due⟩)
      | ready => cases due
      | entering call wake => cases due
      | signalling signals reply => cases due
  · cases moved

theorem effect_of_disturb {i : Nat} (moved : system.disturb i = some next) :
    Effect client system none next := by
  obtain ⟨⟨job, phase⟩, at_i, moved⟩ := Option.bind_eq_some_iff.mp moved
  split at moved
  · next sleeping =>
      cases phase with
      | asleep call condition =>
          cases moved
          exact .wake at_i (.inl rfl)
      | ready => cases sleeping
      | entering call wake => cases sleeping
      | signalling signals reply => cases sleeping
  · cases moved

theorem effect_of_move {move : Move} (moved : system.move client move = some next) :
    Effect client system (system.event? client move) next := by
  cases move with
  | advance i sleeper => exact effect_of_advance moved
  | expire i => exact effect_of_expire moved
  | disturb i => exact effect_of_disturb moved
  | pass time =>
      cases moved
      exact .pass time

/-! The call that a task has under way, and the reply that it is about to give back. -/

def call? (system : System ρ σ) (i : Nat) : Option (Call ρ) :=
  system.tasks[i]?.bind fun task => task.phase.call?

def inHand? (system : System ρ σ) (i : Nat) : Option (Reply ρ) :=
  system.tasks[i]?.bind fun task => task.phase.inHand?

theorem tasks_setTask {i : Nat} {old : Task ρ σ} (at_i : system.tasks[i]? = some old)
    (task : Task ρ σ) (k : Nat) :
    (system.setTask i task).tasks[k]? =
      if k = i then some task else system.tasks[k]? := by
  obtain ⟨inRange, -⟩ := List.getElem?_eq_some_iff.mp at_i
  rw [setTask, List.getElem?_set]
  split
  · next same => simp [same.symm]
  · next other => rw [if_neg (Ne.symm other)]

theorem call?_setTask {i : Nat} {old : Task ρ σ} (at_i : system.tasks[i]? = some old)
    (task : Task ρ σ) (k : Nat) :
    (system.setTask i task).call? k =
      if k = i then task.phase.call? else system.call? k := by
  rw [call?, tasks_setTask at_i, call?]
  split <;> rfl

theorem inHand?_setTask {i : Nat} {old : Task ρ σ} (at_i : system.tasks[i]? = some old)
    (task : Task ρ σ) (k : Nat) :
    (system.setTask i task).inHand? k =
      if k = i then task.phase.inHand? else system.inHand? k := by
  rw [inHand?, tasks_setTask at_i, inHand?]
  split <;> rfl

/-- Between two systems no call has begun, ended or been answered. -/
structure Silent (system next : System ρ σ) : Prop where
  channel : next.channel = system.channel
  call? : ∀ k, next.call? k = system.call? k
  inHand? : ∀ k, next.inHand? k = system.inHand? k

theorem Silent.trans {middle : System ρ σ} (first : Silent system middle)
    (second : Silent middle next) : Silent system next where
  channel := second.channel.trans first.channel
  call? k := (second.call? k).trans (first.call? k)
  inHand? k := (second.inHand? k).trans (first.inHand? k)

theorem silent_setTask {i : Nat} {old task : Task ρ σ}
    (at_i : system.tasks[i]? = some old)
    (sameCall : task.phase.call? = old.phase.call?)
    (sameReply : task.phase.inHand? = old.phase.inHand?) :
    Silent system (system.setTask i task) where
  channel := rfl
  call? k := by
    rw [call?_setTask at_i]
    split
    · next same => rw [same, System.call?, at_i, sameCall, Option.bind_some]
    · rfl
  inHand? k := by
    rw [inHand?_setTask at_i]
    split
    · next same => rw [same, System.inHand?, at_i, sameReply, Option.bind_some]
    · rfl

theorem silent_deliver {signal : Signal} {sleeper : Option Nat}
    (delivered : system.deliver signal sleeper = some next) : Silent system next := by
  cases signal with
  | one condition =>
      cases sleeper with
      | none =>
          change (if system.tasks.any (·.sleepsOn condition) = true then none
            else some system) = some next at delivered
          split at delivered
          · cases delivered
          · cases delivered
            exact ⟨rfl, fun _ => rfl, fun _ => rfl⟩
      | some j =>
          obtain ⟨task, at_j, delivered⟩ := Option.bind_eq_some_iff.mp delivered
          split at delivered
          · cases delivered
            exact silent_setTask at_j (task.call?_wake .notified)
              (task.inHand?_wake .notified)
          · cases delivered
  | all condition =>
      cases delivered
      refine ⟨rfl, ?_, ?_⟩
      · intro k
        simp only [System.call?, List.getElem?_map, Option.bind_map]
        congr 1
        funext task
        dsimp only [Function.comp]
        split
        · exact task.call?_wake .notified
        · rfl
      · intro k
        simp only [System.inHand?, List.getElem?_map, Option.bind_map]
        congr 1
        funext task
        dsimp only [Function.comp]
        split
        · exact task.inHand?_wake .notified
        · rfl

/-- The steps as they bear on the calls alone. -/
inductive Progress (system : System ρ σ) : Option (Event ρ) → System ρ σ → Prop
  | call {i : Nat} {request : Request ρ} {next : System ρ σ}
      (idle : system.call? i = none) (channel : next.channel = system.channel)
      (call? : ∀ k, next.call? k =
        if k = i then some (.start request system.clock) else system.call? k)
      (inHand? : ∀ k, next.inHand? k = system.inHand? k) :
      Progress system (some (.called i request)) next
  | complete {i : Nat} {call : Call ρ} {expired : Bool} {channel : Channel ρ}
      {signals : List Signal} {reply : Reply ρ} {next : System ρ σ}
      (calling : system.call? i = some call)
      (served : system.channel.Served expired call.request channel signals reply)
      (nextChannel : next.channel = channel)
      (call? : ∀ k, next.call? k = if k = i then none else system.call? k)
      (idle : system.inHand? i = none)
      (inHand? : ∀ k, next.inHand? k = if k = i then some reply else system.inHand? k) :
      Progress system (some (.completed i call.request reply)) next
  | giveBack {i : Nat} {reply : Reply ρ} {next : System ρ σ}
      (holding : system.inHand? i = some reply) (channel : next.channel = system.channel)
      (call? : ∀ k, next.call? k = system.call? k)
      (inHand? : ∀ k, next.inHand? k = if k = i then none else system.inHand? k) :
      Progress system (some (.returned i reply)) next
  | silent {next : System ρ σ} (silent : Silent system next) : Progress system none next

theorem Effect.progress {event : Option (Event ρ)}
    (effect : Effect client system event next) : Progress system event next := by
  cases effect with
  | call at_i asked =>
      refine .call ?_ rfl (call?_setTask at_i _) ?_
      · rw [System.call?, at_i, Option.bind_some]
        rfl
      · intro k
        rw [inHand?_setTask at_i]
        split
        · next same => rw [same, System.inHand?, at_i, Option.bind_some]; rfl
        · rfl
  | complete at_i answered =>
      obtain ⟨expired, -, served⟩ := Call.served_of_enter answered
      refine .complete ?_ served rfl (call?_setTask at_i _) ?_ (inHand?_setTask at_i _)
      · rw [System.call?, at_i, Option.bind_some]
        rfl
      · rw [System.inHand?, at_i, Option.bind_some]
        rfl
  | sleep at_i blocked => exact .silent (silent_setTask at_i rfl rfl)
  | notify at_i delivered =>
      refine .silent (Silent.trans ?_ (silent_deliver delivered))
      exact silent_setTask at_i rfl rfl
  | giveBack at_i =>
      refine .giveBack ?_ rfl ?_ (inHand?_setTask at_i _)
      · rw [System.inHand?, at_i, Option.bind_some]
        rfl
      · intro k
        rw [call?_setTask at_i]
        split
        · next same => rw [same, System.call?, at_i, Option.bind_some]; rfl
        · rfl
  | wake at_i due => exact .silent (silent_setTask at_i rfl rfl)
  | pass time => exact .silent ⟨rfl, fun _ => rfl, fun _ => rfl⟩

end System

end BindStream
