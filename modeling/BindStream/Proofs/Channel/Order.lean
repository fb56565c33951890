import BindStream.Channel.Worker
import BindStream.Proofs.Channel.Change

namespace BindStream

/-! Rows leave a channel in the order in which they came, and none is lost on the way. -/

variable {ρ σ : Type}

def Request.row? : Request ρ → Option ρ
  | put row _ => some row
  | _ => none

namespace Channel

variable {channel next : Channel ρ} {expired : Bool} {request : Request ρ}
variable {signals : List Signal} {reply : Reply ρ}

/-- A bounded channel holds no more rows than its capacity. -/
def Fits (channel : Channel ρ) : Prop :=
  ∀ rows, channel.capacity.rows? = some rows → channel.queue.length ≤ rows

theorem Served.capacity (served : channel.Served expired request next signals reply) :
    next.capacity = channel.capacity := by
  cases served <;> rfl

theorem Served.queue (served : channel.Served expired request next signals reply)
    (i : Nat) :
    (Event.completed i request reply).taken?.toList ++ next.queue =
      channel.queue ++ (Event.completed i request reply).accepted?.toList := by
  cases served with
  | stored opened room => simp [Event.taken?, Event.accepted?]
  | taken takes oldest =>
      rw [oldest]
      cases request <;> simp [Event.taken?, Event.accepted?]
  | takeCancelled takes empty closed =>
      cases request <;> simp [Event.taken?, Event.accepted?]
  | _ => simp [Event.taken?, Event.accepted?]

theorem Served.fits (served : channel.Served expired request next signals reply)
    (fits : channel.Fits) : next.Fits := by
  intro rows bounded
  rw [served.capacity] at bounded
  have before := fits rows bounded
  cases served with
  | stored opened room =>
      have free : channel.queue.length < rows := by
        simpa [Capacity.hasRoom, bounded] using room
      rw [List.length_append, List.length_singleton]
      omega
  | taken takes oldest =>
      rw [oldest, List.length_cons] at before
      exact Nat.le_of_succ_le before
  | _ => exact before

end Channel

namespace System

variable {client : Client ρ σ} {system next : System ρ σ} {events : List (Event ρ)}
variable {event : Option (Event ρ)}

def offer? (system : System ρ σ) (i : Nat) : Option ρ :=
  (system.call? i).bind fun call => call.request.row?

theorem Progress.rows (progress : Progress system event next)
    (ordered :
      events.filterMap Event.taken? ++ system.channel.queue =
        events.filterMap Event.accepted?) :
    (events ++ event.toList).filterMap Event.taken? ++ next.channel.queue =
      (events ++ event.toList).filterMap Event.accepted? := by
  cases progress with
  | call idle channel call? inHand? =>
      rw [channel, Option.toList_some, filterMap_snoc, filterMap_snoc]
      simpa [Event.taken?, Event.accepted?] using ordered
  | @complete i call expired channel signals reply next calling served nextChannel =>
      rw [nextChannel, Option.toList_some, filterMap_snoc, filterMap_snoc, ← ordered,
        List.append_assoc, List.append_assoc]
      exact congrArg _ (served.queue i)
  | giveBack holding channel call? inHand? =>
      rw [channel, Option.toList_some, filterMap_snoc, filterMap_snoc]
      simpa [Event.taken?, Event.accepted?] using ordered
  | silent silent =>
      rw [silent.channel]
      simpa using ordered

theorem Run.ordered {capacity : Capacity} {jobs : List σ}
    (run : Run client (initial capacity jobs) events system) :
    events.filterMap Event.taken? ++ system.channel.queue = events.filterMap Event.accepted? :=
  run.invariant (motive := fun events system =>
    events.filterMap Event.taken? ++ system.channel.queue = events.filterMap Event.accepted?)
    rfl fun held progress => progress.rows held

/-- Where one of two tasks puts no rows and the other takes none, the rows that the first has taken
and those that wait are the rows that the second has put. -/
theorem Run.ordered_of_two {capacity : Capacity} {first second : σ}
    (run : Run client (initial capacity [first, second]) events system)
    (unaccepted : ∀ request reply, .completed 0 request reply ∈ events →
      (Event.completed 0 request reply).accepted? = none)
    (untaken : ∀ request reply, .completed 1 request reply ∈ events →
      (Event.completed 1 request reply).taken? = none) :
    events.filterMap (Event.of 0 Event.taken?) ++ system.channel.queue =
      events.filterMap (Event.of 1 Event.accepted?) := by
  have inRange (shown : Event ρ) (member : shown ∈ events) : shown.task < 2 := run.task_lt member
  rw [filterMap_of_unseen (fun _ => Event.completed_of_taken?) inRange untaken rfl,
    filterMap_of_unseen (fun _ => Event.completed_of_accepted?) inRange unaccepted rfl]
  exact run.ordered

/-- A task's accepted rows, and behind them the one that it offers, stand in the order of its
calls. -/
def OffersInOrder (i : Nat) (events : List (Event ρ)) (system : System ρ σ) : Prop :=
  (events.filterMap (Event.of i Event.accepted?) ++ (system.offer? i).toList).Sublist
    (events.filterMap (Event.of i Event.offered?))

theorem accepted?_sublist_row? (i : Nat) (request : Request ρ) (reply : Reply ρ) :
    (Event.completed i request reply).accepted?.toList.Sublist request.row?.toList := by
  cases request with
  | put row within => cases reply <;> simp [Event.accepted?, Request.row?]
  | _ => simp [Event.accepted?]

theorem Progress.offersInOrder {i : Nat} (progress : Progress system event next)
    (inOrder : OffersInOrder i events system) :
    OffersInOrder i (events ++ event.toList) next := by
  unfold OffersInOrder offer? at inOrder ⊢
  cases progress with
  | @call j request next idle channel call? inHand? =>
      rw [Option.toList_some, filterMap_snoc, filterMap_snoc, call?]
      by_cases own : i = j
      · subst own
        rw [idle] at inOrder
        refine List.Sublist.append ?_ ?_
        · simpa [Event.of, Event.accepted?] using inOrder
        · cases request <;> simp [Event.of, Event.task, Event.offered?, Request.row?,
            Call.start]
      · simpa [Event.of, Event.task, Ne.symm own, own] using inOrder
  | @complete j call expired channel signals reply next calling served nextChannel call? =>
      rw [Option.toList_some, filterMap_snoc, filterMap_snoc, call?]
      by_cases own : i = j
      · subst own
        rw [calling] at inOrder
        have accepted := (accepted?_sublist_row? i call.request reply).append_left
          (events.filterMap (Event.of i Event.accepted?))
        simpa [Event.of, Event.task, Event.offered?] using accepted.trans inOrder
      · simpa [Event.of, Event.task, Ne.symm own, own] using inOrder
  | giveBack holding channel call? inHand? =>
      rw [Option.toList_some, filterMap_snoc, filterMap_snoc, call?]
      simpa [Event.of, Event.accepted?, Event.offered?] using inOrder
  | silent silent =>
      rw [Option.toList_none, List.append_nil, silent.call?]
      exact inOrder

/-- A task has been given its replies as they were made, up to the one in hand. -/
def RepliesInOrder (i : Nat) (events : List (Event ρ)) (system : System ρ σ) : Prop :=
  events.filterMap (Event.of i Event.reply?) =
    events.filterMap (Event.of i Event.returned?) ++ (system.inHand? i).toList

theorem Progress.repliesInOrder {i : Nat} (progress : Progress system event next)
    (inOrder : RepliesInOrder i events system) :
    RepliesInOrder i (events ++ event.toList) next := by
  unfold RepliesInOrder at inOrder ⊢
  cases progress with
  | call idle channel call? inHand? =>
      rw [Option.toList_some, filterMap_snoc, filterMap_snoc, inHand?]
      simpa [Event.of, Event.reply?, Event.returned?] using inOrder
  | @complete j call expired channel signals reply next calling served nextChannel call?
      idle inHand? =>
      rw [Option.toList_some, filterMap_snoc, filterMap_snoc, inHand?]
      by_cases own : i = j
      · subst own
        rw [idle] at inOrder
        rw [inOrder]
        simp [Event.of, Event.task, Event.reply?, Event.returned?]
      · simpa [Event.of, Event.task, Ne.symm own, own] using inOrder
  | @giveBack j reply next holding channel call? inHand? =>
      rw [Option.toList_some, filterMap_snoc, filterMap_snoc, inHand?]
      by_cases own : i = j
      · subst own
        rw [holding] at inOrder
        rw [inOrder]
        simp [Event.of, Event.task, Event.reply?, Event.returned?]
      · simpa [Event.of, Event.task, Ne.symm own, own] using inOrder
  | silent silent =>
      rw [Option.toList_none, List.append_nil, silent.inHand?]
      exact inOrder

theorem Progress.fits (progress : Progress system event next)
    (fits : system.channel.Fits) : next.channel.Fits := by
  cases progress with
  | call idle channel => rwa [channel]
  | complete calling served nextChannel =>
      rw [nextChannel]
      exact served.fits fits
  | giveBack holding channel => rwa [channel]
  | silent silent => rwa [silent.channel]

theorem Progress.capacity (progress : Progress system event next) :
    next.channel.capacity = system.channel.capacity := by
  cases progress with
  | call idle channel => rw [channel]
  | complete calling served nextChannel => rw [nextChannel, served.capacity]
  | giveBack holding channel => rw [channel]
  | silent silent => rw [silent.channel]

theorem call?_initial (capacity : Capacity) (jobs : List σ) (i : Nat) :
    (initial (ρ := ρ) capacity jobs).call? i = none := by
  simp [call?, initial, Task.start, Phase.call?, Option.bind_eq_none_iff]

theorem inHand?_initial (capacity : Capacity) (jobs : List σ) (i : Nat) :
    (initial (ρ := ρ) capacity jobs).inHand? i = none := by
  simp [inHand?, initial, Task.start, Phase.inHand?, Option.bind_eq_none_iff]

/-- The rows of successful takes, in the order in which they left the queue, and the rows still
queued are the rows of successful puts, in the order in which they entered it. The latter are
for each task in the order of its calls, and a task is given the replies that were made. -/
theorem rows_leave_in_order {capacity : Capacity} {jobs : List σ}
    (run : Run client (initial capacity jobs) events system) :
    events.filterMap Event.taken? ++ system.channel.queue =
        events.filterMap Event.accepted? ∧
      (∀ i,
        (events.filterMap (Event.of i Event.accepted?)).Sublist
            (events.filterMap (Event.of i Event.offered?)) ∧
          (events.filterMap (Event.of i Event.accepted?)).Sublist
            (events.filterMap Event.taken? ++ system.channel.queue)) ∧
      (∀ i,
        events.filterMap (Event.of i Event.reply?) =
          events.filterMap (Event.of i Event.returned?) ++ (system.inHand? i).toList) ∧
      ∀ rows, capacity.rows? = some rows → system.channel.queue.length ≤ rows := by
  have ordered : events.filterMap Event.taken? ++ system.channel.queue =
      events.filterMap Event.accepted? :=
    run.invariant (motive := fun events system =>
      events.filterMap Event.taken? ++ system.channel.queue =
        events.filterMap Event.accepted?) rfl fun held progress => progress.rows held
  have offers (i : Nat) : OffersInOrder i events system :=
    run.invariant (motive := OffersInOrder i)
      (by simp [OffersInOrder, offer?, call?_initial])
      fun held progress => progress.offersInOrder held
  have replies (i : Nat) : RepliesInOrder i events system :=
    run.invariant (motive := RepliesInOrder i)
      (by simp [RepliesInOrder, inHand?_initial])
      fun held progress => progress.repliesInOrder held
  have fits : system.channel.Fits :=
    run.invariant (motive := fun _ system => system.channel.Fits)
      (fun _ _ => Nat.zero_le _) fun held progress => progress.fits held
  have kept : system.channel.capacity = capacity :=
    run.invariant (motive := fun _ system => system.channel.capacity = capacity)
      rfl fun held progress => progress.capacity.trans held
  refine ⟨ordered, fun i => ⟨?_, ?_⟩, replies, fun rows bounded => fits rows ?_⟩
  · exact (List.sublist_append_left _ _).trans (offers i)
  · rw [ordered]
    exact filterMap_of_sublist i _ events
  · rw [kept, bounded]

/-! A put that waits for room and is let in by a take. -/

def crowded : System Nat (Worker Nat) :=
  initial (.ofNat 1)
    [.start [.ask (.put 1 none), .ask (.put 2 none)], .start [.ask (.take none)]]

def crowdedMoves : List Move :=
  [.advance 0 none, .advance 0 none, .advance 0 none, .advance 0 none, .advance 0 none,
    .advance 0 none, .advance 1 none, .advance 1 none, .advance 1 (some 0),
    .advance 1 none, .advance 0 none]

theorem rows_leave_crowded_in_order :
    ∃ events system, Run Worker.client crowded events system ∧
      events.filterMap Event.taken? = [1] ∧ system.channel.queue = [2] ∧
      [1] ++ [2] = events.filterMap Event.accepted? := by
  have run := Run.start.play (rfl : crowded.play Worker.client crowdedMoves = some (_, _))
  exact ⟨_, _, run, rfl, rfl, (rows_leave_in_order run).1⟩

end System

end BindStream
