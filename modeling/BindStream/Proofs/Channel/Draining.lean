import BindStream.Proofs.Channel.Cancellation
import BindStream.Proofs.Channel.Stuck

namespace BindStream

/-! A cancelled channel takes no more rows. It hands out those that it has, and then reports the
cancellation for good. -/

variable {ρ σ : Type}

namespace Channel

variable {channel next : Channel ρ} {expired : Bool} {request : Request ρ}
variable {signals : List Signal} {reply : Reply ρ}

theorem Served.put_of_cancelled {row : ρ} {within : Option Nat}
    (served : channel.Served expired (.put row within) next signals reply)
    (closed : channel.cancelled = true) : reply = .refused row .cancelled := by
  cases served with
  | stored opened room => simp [closed] at opened
  | putCancelled closed => rfl
  | putTimedOut opened full elapsed => simp [closed] at opened
  | taken takes oldest => cases takes
  | takeCancelled takes empty closed => cases takes

theorem Served.take_of_cancelled (served : channel.Served expired request next signals reply)
    (closed : channel.cancelled = true) (takes : request.takes = true) :
    (∃ row, reply = .row row) ∨ reply = .failed .cancelled := by
  cases served with
  | taken takes oldest => exact .inl ⟨_, rfl⟩
  | takeCancelled takes empty closed => exact .inr rfl
  | takeTimedOut empty opened elapsed => simp [closed] at opened
  | absent empty opened => simp [closed] at opened
  | _ => cases takes

theorem Served.accepted?_of_cancelled
    (served : channel.Served expired request next signals reply)
    (closed : channel.cancelled = true) (i : Nat) :
    (Event.completed i request reply).accepted? = none := by
  cases request with
  | put row within =>
      rw [served.put_of_cancelled closed]
      rfl
  | _ => rfl

theorem Served.drained_of_failed
    (served : channel.Served expired request next signals (.failed .cancelled)) :
    channel.cancelled = true ∧ channel.queue = [] := by
  cases served with
  | takeCancelled takes empty closed => exact ⟨closed, empty⟩

theorem Served.queue_of_closing (served : channel.Served expired request next signals reply)
    (opened : channel.cancelled = false) (closed : next.cancelled = true) :
    next.queue = channel.queue := by
  cases served with
  | cancelled => rfl
  | stored | taken => simp [opened] at closed
  | _ => rfl

theorem Served.cancel_again (served : channel.Served expired .cancel next signals reply)
    (closed : channel.cancelled = true) : next = channel ∧ signals = [] ∧ reply = .done := by
  cases served with
  | taken takes | takeCancelled takes => cases takes
  | cancelled opened => simp [closed] at opened
  | cancelledBefore => exact ⟨rfl, rfl, rfl⟩

end Channel

theorem Call.answered_of_cancelled (call : Call ρ) {channel : Channel ρ}
    (closed : channel.cancelled = true) (wake : Wake) (clock : Nat) :
    ∃ next signals reply, call.enter channel wake clock = .reply next signals reply := by
  cases answer : call.enter channel wake clock with
  | reply next signals reply => exact ⟨next, signals, reply, rfl⟩
  | wait condition =>
      have opened := (Call.blocked_of_enter answer).opened
      simp [closed] at opened

namespace System

variable {client : Client ρ σ} {start system next last : System ρ σ}
variable {before after events more : List (Event ρ)} {rows : List ρ}

theorem Run.trans (run : Run client start events system) (later : Run client system more last) :
    Run client start (events ++ more) last := by
  induction later with
  | start => simpa using run
  | step later moved ih =>
      rw [← List.append_assoc]
      exact ih.step moved

/-- How a run goes on where the channel has been cancelled with these rows in it. -/
structure Drains (rows : List ρ) (after : List (Event ρ)) (last : System ρ σ) : Prop where
  closed : last.channel.cancelled = true
  taken : after.filterMap Event.taken? ++ last.channel.queue = rows
  puts : ∀ i row within reply, .completed i (.put row within) reply ∈ after →
    reply = .refused row .cancelled
  takes : ∀ i request reply, .completed i request reply ∈ after → request.takes = true →
    (∃ row, reply = .row row) ∨ reply = .failed .cancelled

namespace Drains

variable {event : Option (Event ρ)}

theorem others (drains : Drains rows after system)
    (quiet : ∀ shown ∈ event, ∀ i request reply, shown ≠ .completed i request reply)
    (channel : next.channel = system.channel) : Drains rows (after ++ event.toList) next where
  closed := by
    rw [channel]
    exact drains.closed
  taken := by
    have unseen : event.toList.filterMap Event.taken? = [] := by
      apply List.filterMap_eq_nil_iff.mpr
      intro shown seen
      cases shown with
      | completed i request reply => exact absurd rfl (quiet _ (Option.mem_toList.mp seen) _ _ _)
      | _ => rfl
    rw [List.filterMap_append, unseen, List.append_nil, channel]
    exact drains.taken
  puts i row within reply shown :=
    drains.puts i row within reply
      (mem_of_others (fun _ seen => quiet _ seen i) shown)
  takes i request reply shown :=
    drains.takes i request reply (mem_of_others (fun _ seen => quiet _ seen i) shown)

theorem complete (drains : Drains rows after system) {expired : Bool} {request : Request ρ}
    {signals : List Signal} {reply : Reply ρ}
    (served : system.channel.Served expired request next.channel signals reply) (i : Nat) :
    Drains rows (after ++ [.completed i request reply]) next where
  closed := served.cancelled_iff.mpr (.inl drains.closed)
  taken := by
    -- Nothing is accepted any more, so what leaves the queue is what has been taken.
    have moved := served.queue i
    rw [served.accepted?_of_cancelled drains.closed, Option.toList_none, List.append_nil] at moved
    rw [filterMap_snoc, List.append_assoc, moved]
    exact drains.taken
  puts j row within given shown := by
    rcases List.mem_append.mp shown with earlier | own
    · exact drains.puts j row within given earlier
    · cases List.mem_singleton.mp own
      exact served.put_of_cancelled drains.closed
  takes j asked given shown takes := by
    rcases List.mem_append.mp shown with earlier | own
    · exact drains.takes j asked given earlier takes
    · cases List.mem_singleton.mp own
      exact served.take_of_cancelled drains.closed takes

theorem progress (drains : Drains rows after system) (progress : Progress system event next) :
    Drains rows (after ++ event.toList) next := by
  cases progress with
  | call idle channel => exact drains.others (by rintro _ ⟨⟩ _ _ _ ⟨⟩) channel
  | giveBack holding channel => exact drains.others (by rintro _ ⟨⟩ _ _ _ ⟨⟩) channel
  | silent silent => exact drains.others (by rintro _ ⟨⟩) silent.channel
  | complete calling served nextChannel =>
      subst nextChannel
      exact drains.complete served _

theorem failed_of_empty (drains : Drains [] after last) {i : Nat} {request : Request ρ}
    {reply : Reply ρ} (shown : .completed i request reply ∈ after)
    (takes : request.takes = true) : reply = .failed .cancelled := by
  apply (drains.takes i request reply shown takes).resolve_left
  rintro ⟨row, rfl⟩
  have none := (List.append_eq_nil_iff.mp drains.taken).1
  have unseen := List.filterMap_eq_nil_iff.mp none _ shown
  cases request <;> cases unseen

end Drains

theorem Run.drains (run : Run client system after last)
    (closed : system.channel.cancelled = true) : Drains system.channel.queue after last := by
  apply run.invariant (motive := Drains system.channel.queue)
  · exact ⟨closed, rfl, by simp, by simp⟩
  · intro events system next event drains progress
    exact drains.progress progress

theorem Effect.completed {i : Nat} {request : Request ρ} {reply : Reply ρ}
    (effect : Effect client system (some (.completed i request reply)) next) :
    ∃ job expired signals,
      system.channel.Served expired request next.channel signals reply ∧
        next.tasks = system.tasks.set i ⟨job, .signalling signals reply⟩ := by
  cases effect with
  | complete at_i answered =>
      obtain ⟨expired, -, served⟩ := Call.served_of_enter answered
      exact ⟨_, expired, _, served, rfl⟩

theorem Effect.queue_of_closing {event : Option (Event ρ)}
    (effect : Effect client system event next) (opened : system.channel.cancelled = false)
    (closed : next.channel.cancelled = true) : next.channel.queue = system.channel.queue := by
  cases effect.progress with
  | call idle channel | giveBack holding channel => rw [channel]
  | silent silent => rw [silent.channel]
  | complete calling served nextChannel =>
      subst nextChannel
      exact served.queue_of_closing opened closed

theorem awake_of_cancelled {capacity : Capacity} {jobs : List σ}
    (run : Run client (initial capacity jobs) events system)
    (closed : system.channel.cancelled = true) (stuck : system.Stuck client) :
    ∀ task ∈ system.tasks, ∃ job, task = ⟨job, .ready⟩ ∧ client.request job = none := by
  intro task member
  rcases stuck.rests member with ended | ⟨call, condition, asleep⟩
  · exact ended
  · exact absurd asleep (run.not_asleep_of_stuck stuck closed member)

/-- Whichever step of a run is looked at: once the channel is cancelled, with the rows that it has
then, it stays so, and from there on puts are refused, takes hand out those rows in order, and
every call that gets the lock is answered. A take reports the cancellation only where no row is
left, and then all takes do. To cancel again changes nothing and wakes no one. -/
theorem cancellation_is_terminal {capacity : Capacity} {jobs : List σ} {move : Move}
    (run : Run client (initial capacity jobs) before system)
    (moved : system.move client move = some next) (later : Run client next after last) :
    (next.channel.cancelled = true →
      (system.channel.cancelled = false → next.channel.queue = system.channel.queue) ∧
      Drains next.channel.queue after last ∧
      (∀ call wake clock, ∃ channel signals reply,
        Call.enter call last.channel wake clock = .reply channel signals reply) ∧
      (last.Stuck client → ∀ task ∈ last.tasks,
        ∃ job, task = ⟨job, .ready⟩ ∧ client.request job = none)) ∧
    (∀ i request,
      system.event? client move = some (.completed i request (.failed .cancelled)) →
      system.channel.cancelled = true ∧ system.channel.queue = [] ∧ Drains [] after last ∧
      ∀ j asked reply, .completed j asked reply ∈ after → asked.takes = true →
        reply = .failed .cancelled) ∧
    (∀ i reply, system.event? client move = some (.completed i .cancel reply) →
      system.channel.cancelled = true →
      reply = .done ∧ next.channel = system.channel ∧
        ∃ job, next.tasks = system.tasks.set i ⟨job, .signalling [] .done⟩) := by
  have effect := effect_of_move moved
  have whole := (run.step moved).trans later
  refine ⟨fun closed => ?_, fun i request shown => ?_, fun i reply shown closed => ?_⟩
  · have drains := later.drains closed
    refine ⟨fun opened => effect.queue_of_closing opened closed, drains, ?_, ?_⟩
    · intro call wake clock
      exact call.answered_of_cancelled drains.closed wake clock
    · exact awake_of_cancelled whole drains.closed
  · rw [shown] at effect
    obtain ⟨job, expired, signals, served, -⟩ := effect.completed
    obtain ⟨closed, empty⟩ := served.drained_of_failed
    have drained := Channel.Moved.drained (.inr ⟨_, _, _, _, served⟩) closed empty
    have drains := later.drains drained.1
    rw [drained.2] at drains
    exact ⟨closed, empty, drains, fun j asked reply => drains.failed_of_empty⟩
  · rw [shown] at effect
    obtain ⟨job, expired, signals, served, tasks⟩ := effect.completed
    obtain ⟨same, rfl, rfl⟩ := served.cancel_again closed
    exact ⟨rfl, same, job, tasks⟩

/-! A put that is asleep when the channel is cancelled, with one row still in it. -/

def abandoned : System Nat (Worker Nat) :=
  initial (.ofNat 1) [.start [.ask (.put 1 none), .ask (.put 2 none)], .start [.ask .cancel],
    .start [.ask (.take none), .ask (.take none)]]

def untilAbandoned : List Move :=
  [.advance 0 none, .advance 0 none, .advance 0 none, .advance 0 none, .advance 0 none,
    .advance 0 none, .advance 1 none]

/-- The put sleeps, and the task that cancels has the lock. -/
def aboutToAbandon : System Nat (Worker Nat) :=
  ⟨⟨.ofNat 1, [1], false⟩, 0,
    [⟨⟨[.ask (.put 2 none)], [], [], [.reply .stored]⟩, .asleep ⟨.put 2 none, none⟩ .notFull⟩,
      ⟨.start [.ask .cancel], .entering ⟨.cancel, none⟩ .first⟩,
      .start (.start [.ask (.take none), .ask (.take none)])]⟩

def justAbandoned : System Nat (Worker Nat) :=
  (aboutToAbandon.move Worker.client (.advance 1 none)).getD aboutToAbandon

def sinceAbandoned : List Move :=
  [.advance 1 none, .advance 1 none, .advance 0 none,
    .advance 2 none, .advance 2 none, .advance 2 none, .advance 2 none,
    .advance 2 none, .advance 2 none]

theorem cancellation_is_terminal_when_abandoned :
    ∃ before after last, Run Worker.client abandoned before aboutToAbandon ∧
      aboutToAbandon.move Worker.client (.advance 1 none) = some justAbandoned ∧
      Run Worker.client justAbandoned after last ∧ justAbandoned.channel.cancelled = true ∧
      Drains [1] after last ∧ after.filterMap Event.taken? = [1] ∧
      .completed 0 (.put 2 none) (.refused 2 .cancelled) ∈ after ∧
      .completed 2 (.take none) (.failed .cancelled) ∈ after := by
  have run := Run.start.play
    (rfl : abandoned.play Worker.client untilAbandoned = some (_, aboutToAbandon))
  have moved : aboutToAbandon.move Worker.client (.advance 1 none) = some justAbandoned := rfl
  have later := Run.start.play
    (rfl : justAbandoned.play Worker.client sinceAbandoned = some (_, _))
  exact ⟨_, _, _, run, moved, later, rfl, ((cancellation_is_terminal run moved later).1 rfl).2.1,
    rfl, by decide, by decide⟩

end System

end BindStream
