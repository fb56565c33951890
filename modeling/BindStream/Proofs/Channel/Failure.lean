import BindStream.Proofs.Channel.Custody

namespace BindStream

/-! An operation that fails leaves the channel as it finds it, for a reason that the channel gives
at that step. -/

variable {ρ σ : Type}

/-- Why an operation has failed. -/
def Reply.failure? : Reply ρ → Option ChannelError
  | refused _ cause => some cause
  | failed cause => some cause
  | _ => none

namespace Channel

variable {channel next : Channel ρ} {expired : Bool} {request : Request ρ}
variable {signals : List Signal} {reply : Reply ρ} {overdue later : Prop} {row : ρ}

/-- How a put ends, by what the channel is at that step. -/
structure PutEnds (channel : Channel ρ) (row : ρ) (overdue : Prop) (reply : Reply ρ) : Prop where
  handsBack : reply = .stored ∨ ∃ cause, reply = .refused row cause
  stored : reply = .stored ↔
    channel.cancelled = false ∧ channel.capacity.hasRoom channel.queue.length = true
  cancelled : reply = .refused row .cancelled ↔ channel.cancelled = true
  timedOut : reply = .refused row .timedOut →
    channel.cancelled = false ∧ channel.capacity.hasRoom channel.queue.length = false ∧ overdue

/-- How a take ends, by what the channel is at that step. -/
structure TakeEnds (channel : Channel ρ) (overdue : Prop) (reply : Reply ρ) : Prop where
  fails : ∀ cause, reply.failure? = some cause → reply = .failed cause
  row : ∀ row, reply = .row row ↔ channel.queue.head? = some row
  cancelled : reply = .failed .cancelled ↔ channel.cancelled = true ∧ channel.queue = []
  timedOut : reply = .failed .timedOut →
    channel.cancelled = false ∧ channel.queue = [] ∧ overdue

structure Ends (channel : Channel ρ) (request : Request ρ) (overdue : Prop) (reply : Reply ρ) :
    Prop where
  put : ∀ row within, request = .put row within → channel.PutEnds row overdue reply
  take : request.takes = true → channel.TakeEnds overdue reply

theorem PutEnds.imp (ends : channel.PutEnds row overdue reply) (due : overdue → later) :
    channel.PutEnds row later reply where
  handsBack := ends.handsBack
  stored := ends.stored
  cancelled := ends.cancelled
  timedOut out := (ends.timedOut out).imp_right (And.imp_right due)

theorem TakeEnds.imp (ends : channel.TakeEnds overdue reply) (due : overdue → later) :
    channel.TakeEnds later reply where
  fails := ends.fails
  row := ends.row
  cancelled := ends.cancelled
  timedOut out := (ends.timedOut out).imp_right (And.imp_right due)

theorem Served.unchanged (served : channel.Served expired request next signals reply)
    {cause : ChannelError} (fails : reply.failure? = some cause) :
    next = channel ∧ signals = [] := by
  cases served with
  | putCancelled | putTimedOut | takeCancelled | takeTimedOut => exact ⟨rfl, rfl⟩
  | _ => cases fails

theorem Served.putEnds {within : Option Nat}
    (served : channel.Served expired (.put row within) next signals reply) :
    channel.PutEnds row (expired = true) reply := by
  cases served with
  | stored opened room => constructor <;> simp [opened, room]
  | putCancelled closed => constructor <;> simp [closed]
  | putTimedOut opened full elapsed => constructor <;> simp [opened, full, elapsed]
  | taken takes | takeCancelled takes => cases takes

theorem Served.takeEnds (served : channel.Served expired request next signals reply)
    (takes : request.takes = true) : channel.TakeEnds (expired = true) reply := by
  cases served with
  | taken takes oldest => constructor <;> simp [oldest, Reply.failure?]
  | takeCancelled takes empty closed => constructor <;> simp [empty, closed, Reply.failure?]
  | takeTimedOut empty opened elapsed =>
      constructor <;> simp [empty, opened, elapsed, Reply.failure?]
  | absent empty opened => constructor <;> simp [empty, opened, Reply.failure?]
  | _ => cases takes

theorem Served.ends (served : channel.Served expired request next signals reply)
    (due : expired = true → overdue) : channel.Ends request overdue reply where
  put row within asked := by
    subst asked
    exact served.putEnds.imp due
  take takes := (served.takeEnds takes).imp due

theorem attempt_expired_ne_wait (channel : Channel ρ) (request : Request ρ)
    (condition : Condition) : channel.attempt request true ≠ .wait condition := by
  intro waits
  have blocked := blocked_of_attempt waits
  cases blocked with
  | put opened full => simp [attempt, put, opened, full] at waits
  | take opened empty => simp [attempt, take, opened, empty] at waits

end Channel

/-- Whether a call has no time left when it looks at the channel. -/
def Call.IsOver (call : Call ρ) (wake : Wake) (clock : Nat) : Prop :=
  wake = .expired ∨ call.deadline.any (· < clock) = true

/-- A call that looks at the channel when its time is over does not go to sleep again. -/
theorem Call.IsOver.answered {call : Call ρ} {wake : Wake} {clock : Nat}
    (timeUp : call.IsOver wake clock) (channel : Channel ρ) :
    ∃ next signals reply, call.enter channel wake clock = .reply next signals reply := by
  cases entered : call.enter channel wake clock with
  | reply next signals reply => exact ⟨next, signals, reply, rfl⟩
  | wait condition =>
      exfalso
      unfold Call.enter at entered
      split at entered
      · next slept =>
          rcases timeUp with rfl | late
          · exact Channel.attempt_expired_ne_wait _ _ _ slept
          · rw [if_pos late] at entered
            exact Channel.attempt_expired_ne_wait _ _ _ entered
      · next awake => exact awake _ entered

namespace System

variable {client : Client ρ σ} {start system next last : System ρ σ}
variable {events : List (Event ρ)} {event : Option (Event ρ)} {i : Nat} {job : σ}
variable {call : Call ρ} {wake : Wake} {request : Request ρ} {reply : Reply ρ}
variable {capacity : Capacity} {jobs : List σ}

/-! The time at which a call was made, and the time that it has. -/

/-- A task has made a request at some time, and has shown nothing since. -/
inductive CalledAt (client : Client ρ σ) (start : System ρ σ) (i : Nat) (request : Request ρ)
    (time : Nat) : List (Event ρ) → System ρ σ → Prop
  | called {events : List (Event ρ)} {system next : System ρ σ} {move : Move}
      (run : Run client start events system) (now : system.clock = time)
      (moved : system.move client move = some next)
      (shown : system.event? client move = some (.called i request)) :
      CalledAt client start i request time (events ++ [.called i request]) next
  | waits {events : List (Event ρ)} {event : Option (Event ρ)} {system next : System ρ σ}
      {move : Move} (before : CalledAt client start i request time events system)
      (moved : system.move client move = some next)
      (shown : system.event? client move = event) (others : ∀ shown ∈ event, shown.task ≠ i) :
      CalledAt client start i request time (events ++ event.toList) next

/-- Whether a task made its request at least as long ago as the request has time. -/
def Overdue (client : Client ρ σ) (start : System ρ σ) (i : Nat) (request : Request ρ)
    (events : List (Event ρ)) (system : System ρ σ) : Prop :=
  ∃ limit time, request.within? = some limit ∧ time + limit ≤ system.clock ∧
    CalledAt client start i request time events system

theorem call?_of_inHand? (holding : system.inHand? i = some reply) : system.call? i = none := by
  obtain ⟨⟨job, phase⟩, at_i, holding⟩ := Option.bind_eq_some_iff.mp holding
  rw [call?, at_i, Option.bind_some]
  cases phase with
  | signalling signals reply => rfl
  | _ => cases holding

theorem Run.calledAt (run : Run client (initial capacity jobs) events system)
    (calling : system.call? i = some call) :
    ∃ time, call = .start call.request time ∧
      CalledAt client (initial capacity jobs) i call.request time events system := by
  induction run with
  | start => cases (call?_initial capacity jobs i).symm.trans calling
  | @step events system next move run moved ih =>
      have progress := (effect_of_move moved).progress
      generalize shown : system.event? client move = event at progress ⊢
      -- Only the task itself can begin its call, and it shows nothing while the call goes on.
      have goesOn (before : system.call? i = some call)
          (others : ∀ shown ∈ event, shown.task ≠ i) :
          ∃ time, call = .start call.request time ∧
            CalledAt client (initial capacity jobs) i call.request time
              (events ++ event.toList) next := by
        obtain ⟨time, made, called⟩ := ih before
        exact ⟨time, made, .waits called moved shown others⟩
      cases progress with
      | call idle channel call? =>
          rw [call?] at calling
          split at calling
          · next same =>
              cases calling
              subst same
              exact ⟨system.clock, rfl, .called run rfl moved shown⟩
          · next other => exact goesOn calling (by rintro _ ⟨⟩; exact Ne.symm other)
      | complete answered served nextChannel call? =>
          rw [call?] at calling
          split at calling
          · cases calling
          · next other => exact goesOn calling (by rintro _ ⟨⟩; exact Ne.symm other)
      | giveBack holding channel call? =>
          rw [call?] at calling
          refine goesOn calling ?_
          rintro _ ⟨⟩ rfl
          cases (call?_of_inHand? holding).symm.trans calling
      | silent silent =>
          rw [silent.call?] at calling
          exact goesOn calling (by rintro _ ⟨⟩)

theorem clock_deliver {signal : Signal} {sleeper : Option Nat}
    (delivered : system.deliver signal sleeper = some next) : next.clock = system.clock := by
  cases signal with
  | one condition =>
      rcases deliver_one_eq delivered with ⟨-, rfl⟩ | ⟨j, job, call, at_j, rfl⟩ <;> rfl
  | all condition =>
      cases delivered
      rfl

theorem Effect.clock_le (effect : Effect client system event next) :
    system.clock ≤ next.clock := by
  cases effect with
  | notify at_i delivered => exact Nat.le_of_eq (clock_deliver delivered).symm
  | pass time => exact Nat.le_add_right _ _
  | _ => exact Nat.le_refl _

/-- A task is woken by its deadline only when that has come. -/
theorem Run.due (run : Run client (initial capacity jobs) events system)
    (at_i : system.tasks[i]? = some ⟨job, .entering call .expired⟩) :
    ∃ deadline, call.deadline = some deadline ∧ deadline ≤ system.clock := by
  induction run generalizing job with
  | start => cases phase_initial (List.mem_of_getElem? at_i)
  | @step events system next move run moved ih =>
      have effect := effect_of_move moved
      have passed := effect.clock_le
      generalize system.event? client move = event at effect
      obtain ⟨old, before, change⟩ := effect.change at_i
      generalize next.channel = channel at change
      cases change with
      | none others moved =>
          obtain ⟨deadline, limited, come⟩ := ih before
          exact ⟨deadline, limited, Nat.le_trans come passed⟩
      | wake due =>
          obtain ⟨deadline, limited, come⟩ := (Option.any_eq_true _ _).mp (due rfl)
          exact ⟨deadline, limited, Nat.le_trans (of_decide_eq_true come) passed⟩

theorem Run.overdue (run : Run client (initial capacity jobs) events system)
    (at_i : system.tasks[i]? = some ⟨job, .entering call wake⟩)
    (timeUp : call.IsOver wake system.clock) :
    Overdue client (initial capacity jobs) i call.request events system := by
  have calling : system.call? i = some call := by
    rw [call?, at_i]
    rfl
  obtain ⟨time, made, called⟩ := run.calledAt calling
  have due : ∃ deadline, call.deadline = some deadline ∧ deadline ≤ system.clock := by
    rcases timeUp with rfl | late
    · exact run.due at_i
    · obtain ⟨deadline, limited, late⟩ := (Option.any_eq_true _ _).mp late
      exact ⟨deadline, limited, Nat.le_of_lt (of_decide_eq_true late)⟩
  obtain ⟨deadline, limited, come⟩ := due
  rw [made] at limited
  obtain ⟨limit, within, rfl⟩ := Option.map_eq_some_iff.mp limited
  exact ⟨limit, time, within, come, called⟩

/-! The step in which an operation ends. -/

theorem Effect.entering (effect : Effect client system (some (.completed i request reply)) next) :
    ∃ job call wake signals, system.tasks[i]? = some ⟨job, .entering call wake⟩ ∧
      call.request = request ∧
      call.enter system.channel wake system.clock = .reply next.channel signals reply ∧
      next.tasks = system.tasks.set i ⟨job, .signalling signals reply⟩ := by
  cases effect with
  | complete at_i answered => exact ⟨_, _, _, _, at_i, rfl, answered, rfl⟩

theorem Run.ends (run : Run client (initial capacity jobs) events system)
    (at_i : system.tasks[i]? = some ⟨job, .entering call wake⟩) {channel : Channel ρ}
    {signals : List Signal}
    (answered : call.enter system.channel wake system.clock = .reply channel signals reply) :
    system.channel.Ends call.request
      (Overdue client (initial capacity jobs) i call.request events system) reply := by
  obtain ⟨expired, timeUp, served⟩ := Call.served_of_enter answered
  exact served.ends fun elapsed => run.overdue at_i (timeUp elapsed)

theorem Run.ends_when_over (run : Run client (initial capacity jobs) events system)
    (at_i : system.tasks[i]? = some ⟨job, .entering call wake⟩)
    (timeUp : call.IsOver wake system.clock) (sleeper : Option Nat) :
    ∃ next reply, system.move client (.advance i sleeper) = some next ∧
      system.event? client (.advance i sleeper) = some (.completed i call.request reply) ∧
      system.channel.Ends call.request
        (Overdue client (initial capacity jobs) i call.request events system) reply := by
  obtain ⟨channel, signals, reply, answered⟩ := timeUp.answered system.channel
  have moved : system.move client (.advance i sleeper) =
      some { system.setTask i ⟨job, .signalling signals reply⟩ with channel := channel } := by
    simp only [move, advance, at_i, Option.bind_eq_bind, Option.bind_some, answered]
  have shown : system.event? client (.advance i sleeper) =
      some (.completed i call.request reply) := by
    simp only [event?, at_i, Option.bind_some, taskEvent?, answered]
  exact ⟨_, reply, moved, shown, run.ends at_i answered⟩

/-- Whichever step of a run is looked at: an operation that fails in it leaves the channel as it
is and wakes no one. It ends as the channel at that step says: a put is cancelled just where the
channel is, and a take where nothing is left as well; one that times out has found an open
channel, without room or a row, and its time is over since the call. One that looks at the
channel when its time is over ends at that step, and succeeds if the channel has what it waits
for. A row that is handed back is in none of the other places that the rows of the run are in; the
queue has it at some moment, before or after, only if another put of an equal row was stored by
then. -/
theorem failure_changes_nothing {move : Move}
    (run : Run client (initial capacity jobs) events system)
    (moved : system.move client move = some next)
    (shown : system.event? client move = some (.completed i request reply)) :
    (∀ cause, reply.failure? = some cause →
      next.channel = system.channel ∧
        ∃ job, next.tasks = system.tasks.set i ⟨job, .signalling [] reply⟩) ∧
    system.channel.Ends request
      (Overdue client (initial capacity jobs) i request events system) reply ∧
    (∀ j job call wake sleeper, system.tasks[j]? = some ⟨job, .entering call wake⟩ →
      call.IsOver wake system.clock →
      ∃ next reply, system.move client (.advance j sleeper) = some next ∧
        system.event? client (.advance j sleeper) = some (.completed j call.request reply) ∧
        system.channel.Ends call.request
          (Overdue client (initial capacity jobs) j call.request events system) reply) ∧
    ∀ row cause, reply = .refused row cause → ∀ after last, Run client next after last →
      let whole := events ++ .completed i request reply :: after
      (whole.filterMap Event.offered?).Perm
        (whole.filterMap Event.taken? ++ last.channel.queue ++
          whole.filterMap Event.handedBack? ++ last.offers) ∧
      ∀ before moment rest, Run client (initial capacity jobs) before moment →
        Run client moment rest last → before ++ rest = whole → row ∈ moment.channel.queue →
        (∃ j within, .completed j (.put row within) .stored ∈ before) ∧
          (whole.filterMap Event.offered?).Duplicate row := by
  have effect := effect_of_move moved
  rw [shown] at effect
  obtain ⟨job, call, wake, signals, at_i, rfl, answered, tasks⟩ := effect.entering
  obtain ⟨expired, -, served⟩ := Call.served_of_enter answered
  refine ⟨fun cause fails => ?_, run.ends at_i answered, ?_, ?_⟩
  · obtain ⟨same, rfl⟩ := served.unchanged fails
    exact ⟨same, job, tasks⟩
  · intro j job call wake sleeper at_j timeUp
    exact run.ends_when_over at_j timeUp sleeper
  · intro row cause refused after last later whole
    have all : Run client (initial capacity jobs) whole last := by
      have stepped := (run.step moved).trans later
      rwa [shown, Option.toList_some, List.append_assoc] at stepped
    refine ⟨all.rows_perm, fun before moment rest early late same queued => ?_⟩
    have handedBack : row ∈ whole.filterMap Event.handedBack? := by
      refine List.mem_filterMap.mpr ⟨.completed i call.request reply, by simp [whole], ?_⟩
      rw [refused]
      rfl
    rw [← same] at handedBack ⊢
    exact ⟨early.stored_of_queued queued, early.duplicate_of_queued late handedBack queued⟩

/-! A put that waits for room until its time is over. -/

def patient : System Nat (Worker Nat) :=
  initial (.ofNat 1) [.start [.ask (.put 1 none), .ask (.put 2 (some 5))]]

def untilOver : List Move :=
  [.advance 0 none, .advance 0 none, .advance 0 none, .advance 0 none, .advance 0 none,
    .advance 0 none, .pass 5, .expire 0]

/-- The put is awake again, at its deadline. -/
def aboutToGiveUp : System Nat (Worker Nat) :=
  ⟨⟨.ofNat 1, [1], false⟩, 5,
    [⟨⟨[.ask (.put 2 (some 5))], [], [], [.reply .stored]⟩,
      .entering ⟨.put 2 (some 5), some 5⟩ .expired⟩]⟩

def justGivenUp : System Nat (Worker Nat) :=
  (aboutToGiveUp.move Worker.client (.advance 0 none)).getD aboutToGiveUp

theorem failure_changes_nothing_when_over :
    ∃ events, Run Worker.client patient events aboutToGiveUp ∧
      aboutToGiveUp.move Worker.client (.advance 0 none) = some justGivenUp ∧
      aboutToGiveUp.event? Worker.client (.advance 0 none) =
        some (.completed 0 (.put 2 (some 5)) (.refused 2 .timedOut)) ∧
      justGivenUp.channel = aboutToGiveUp.channel ∧
      Overdue Worker.client patient 0 (.put 2 (some 5)) events aboutToGiveUp ∧
      2 ∉ justGivenUp.channel.queue := by
  have run := Run.start.play (rfl : patient.play Worker.client untilOver = some (_, aboutToGiveUp))
  have moved : aboutToGiveUp.move Worker.client (.advance 0 none) = some justGivenUp := rfl
  have shown : aboutToGiveUp.event? Worker.client (.advance 0 none) =
      some (.completed 0 (.put 2 (some 5)) (.refused 2 .timedOut)) := rfl
  obtain ⟨unchanged, ends, -, rows⟩ := failure_changes_nothing run moved shown
  refine ⟨_, run, moved, shown, (unchanged .timedOut rfl).1, ?_, ?_⟩
  · exact ((ends.put 2 (some 5) rfl).timedOut rfl).2.2
  · intro queued
    have others := (rows 2 .timedOut rfl [] justGivenUp .start).2
    exact absurd (others _ justGivenUp [] (run.step moved) .start rfl queued).2 (by decide)

end System

end BindStream
