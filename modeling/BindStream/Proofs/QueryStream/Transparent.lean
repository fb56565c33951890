import BindStream.Proofs.Channel.Stuck
import BindStream.Proofs.QueryStream.Finishing
import BindStream.Proofs.QueryStream.Writer

namespace BindStream

/-! A stream hands over what its executor pushes, and finishes with what the executor returns. -/

namespace Producer

/-- No call of a producer is bounded in time. -/
theorem within?_of_request {producer : Producer} {request : Request Row}
    (asks : producer.request = some request) : request.within? = none := by
  unfold Producer.request at asks
  split at asks <;> cases asks <;> rfl

end Producer

namespace QueryStream

variable {capacity count ends left : Nat} {script : List Action} {events : List (Event Row)}
variable {system : System Row StreamTask} {reader writer : Task Row StreamTask}
variable {worker : Worker Row} {producer : Producer}

/-- A stream whose consumer makes `count` calls, of which `left` are ahead; the consumer and the
producer are taken as they will be once they have been given the replies at hand. -/
structure Streams (script : List Action) (count : Nat) (events : List (Event Row))
    (system : System Row StreamTask) (reader writer : Task Row StreamTask) (worker : Worker Row)
    (ends left : Nat) (producer : Producer) : Prop where
  tasks : system.tasks = [reader, writer]
  consumes : reader.outlook StreamTask.client = .consumer worker
  reads : Reads count events system.channel worker ends left
  produces : writer.outlook StreamTask.client = .producer producer
  writes : Writes script events producer
  closes : system.channel.cancelled = true ↔ ∃ ending, producer = .ended ending
  ordered : events.filterMap (Event.of 0 Event.taken?) ++ system.channel.queue =
    events.filterMap (Event.of 1 Event.accepted?)

/-- The channel is cancelled exactly if the producer is past its own cancellation. -/
theorem cancelled_iff_ended
    (run : System.Run StreamTask.client ((start (.ofNat capacity) script).asked (nextCalls count))
      events system) (at_1 : system.tasks[1]? = some writer)
    (produces : writer.outlook StreamTask.client = .producer producer)
    (writes : Writes script events producer) :
    system.channel.cancelled = true ↔ ∃ ending, producer = .ended ending := by
  obtain ⟨_, closed, same, stage, told⟩ := closes run at_1
  cases produces.symm.trans same
  constructor
  · intro shut
    cases told.mpr (closed_by_producer run shut)
    cases stage with
    | ended returned => exact ⟨_, rfl⟩
  · rintro ⟨ending, rfl⟩
    have normal : ending ≠ .panicked := by
      cases writes.follows with
      | ended delivers => exact delivers.ne_panicked
    cases stage with
    | ended returned =>
        refine (System.Run.cancelled_iff (asked_start _ script _ ▸ run)).mpr ⟨1, ?_⟩
        exact told.mp (returned.mpr normal)

theorem streams (steady : Action.Steady script)
    (run : System.Run StreamTask.client ((start (.ofNat capacity) script).asked (nextCalls count))
      events system) :
    ∃ reader writer worker ends left producer,
      Streams script count events system reader writer worker ends left producer := by
  obtain ⟨reader, writer, tasks⟩ := List.length_eq_two.mp run.length_tasks
  have at_0 : system.tasks[0]? = some reader := by rw [tasks]; rfl
  have at_1 : system.tasks[1]? = some writer := by rw [tasks]; rfl
  obtain ⟨worker, ends, left, consumes, reads⟩ := reads run at_0
  obtain ⟨producer, produces, writes⟩ := writes steady run at_1
  have untaken (request : Request Row) (reply : Reply Row)
      (seen : .completed 1 request reply ∈ events) :
      (Event.completed 1 request reply).taken? = none := by
    rcases writes.requests request reply seen with ⟨row, -, rfl⟩ | ⟨-, rfl⟩ <;> rfl
  have unaccepted (request : Request Row) (reply : Reply Row)
      (seen : .completed 0 request reply ∈ events) :
      (Event.completed 0 request reply).accepted? = none := by
    cases reads.requests request reply seen
    rfl
  have ordered :=
    System.Run.ordered_of_two (asked_start _ script _ ▸ run) unaccepted untaken
  exact ⟨reader, writer, worker, ends, left, producer, tasks, consumes, reads, produces, writes,
    cancelled_iff_ended run at_1 produces writes, ordered⟩

theorem Streams.stored
    (streams : Streams script count events system reader writer worker ends left producer)
    (run : System.Run StreamTask.client ((start (.ofNat capacity) script).asked (nextCalls count))
      events system) {i : Nat} {row : Row} {within : Option Nat} {reply : Reply Row}
    (seen : .completed i (.put row within) reply ∈ events) : reply = .stored := by
  have inRange : i < 2 := run.task_lt seen
  have which : i = 0 ∨ i = 1 := by omega
  rcases which with rfl | rfl
  · cases streams.reads.requests _ _ seen
  · rcases streams.writes.requests _ _ seen with ⟨_, -, stored⟩ | ⟨⟨⟩, -⟩
    exact stored

/-- The rows that the consumer has got are the first of the script. -/
theorem Streams.delivers
    (streams : Streams script count events system reader writer worker ends left producer) :
    Action.Delivers script (events.filterMap (Event.of 0 Event.taken?)) none := by
  have delivers := streams.writes.follows.delivers
  rw [← streams.ordered] at delivers
  exact delivers.of_append

/-- A consumer that has been told that there are no more rows has got all of them. -/
theorem Streams.exhausted
    (streams : Streams script count events system reader writer worker ends left producer)
    (reached : ends ≠ 0) :
    ∃ ending, producer = .ended ending ∧
      Action.Delivers script (events.filterMap (Event.of 0 Event.taken?)) (some ending) := by
  obtain ⟨closed, empty⟩ := streams.reads.atEnd reached
  obtain ⟨ending, rfl⟩ := streams.closes.mp closed
  have all := streams.ordered
  rw [empty, List.append_nil] at all
  cases streams.writes.follows with
  | ended delivers => exact ⟨ending, rfl, all ▸ delivers⟩

theorem Streams.finishes
    (streams : Streams script count events system reader writer worker ends left producer)
    (run : System.Run StreamTask.client ((start (.ofNat capacity) script).asked (nextCalls count))
      events system) {ending : Ending} (ended : producer = .ended ending) :
    (QueryStream.mk system).Finishes ending := by
  subst ended
  rw [asked_start] at run
  have at_1 : system.tasks[1]? = some writer := by rw [streams.tasks]; rfl
  have idle : StreamTask.client.request (writer.outlook StreamTask.client) = none := by
    rw [streams.produces]
    rfl
  have leaves := run.leaving at_1 idle
  rw [streams.produces] at leaves
  exact QueryStream.finishes streams.tasks leaves

/-- What the consumer has been given so far is the first of what it gets with the reply at hand. -/
theorem Streams.outcomes
    (streams : Streams script count events system reader writer worker ends left producer) :
    (QueryStream.mk system).consumer.outcomes <+:
      answers (events.filterMap (Event.of 0 Event.taken?)) ends := by
  rw [← streams.reads.reader.outcomes]
  have consumes := streams.consumes
  obtain ⟨job, phase⟩ := reader
  cases job with
  | consumer earlier =>
      have same : (QueryStream.mk system).consumer = earlier := by
        simp [QueryStream.consumer, job?, streams.tasks]
      rw [same]
      cases phase with
      | signalling signals reply =>
          cases consumes
          exact earlier.outcomes_resume reply
      | _ =>
          cases consumes
          exact List.prefix_rfl
  | producer state => cases phase <;> cases consumes

theorem Streams.of_done
    (streams : Streams script count events system reader writer worker ends left producer)
    (done : (QueryStream.mk system).consumerDone = true) :
    left = 0 ∧ (QueryStream.mk system).consumer.outcomes =
      answers (events.filterMap (Event.of 0 Event.taken?)) ends := by
  rw [consumerDone, System.hasEnded, streams.tasks] at done
  obtain ⟨job, rfl, idle⟩ := Task.ready_of_hasEnded done
  cases streams.consumes
  refine ⟨streams.reads.reader.request_eq_none_iff.mp idle, ?_⟩
  rw [← streams.reads.reader.outcomes]
  simp [QueryStream.consumer, job?, streams.tasks]

/-- Where neither the consumer nor the producer can take a step, the consumer has been given all of
its answers. -/
theorem Streams.done_of_stuck
    (streams : Streams script count events system reader writer worker ends left producer)
    (run : System.Run StreamTask.client ((start (.ofNat capacity) script).asked (nextCalls count))
      events system) (stuck : system.Stuck StreamTask.client) :
    (QueryStream.mk system).consumerDone = true := by
  rw [asked_start] at run
  have reads : reader ∈ system.tasks := by simp [streams.tasks]
  have writes : writer ∈ system.tasks := by simp [streams.tasks]
  rcases stuck.rests reads with ⟨job, rfl, idle⟩ | ⟨take, waits, takes⟩
  · simpa [consumerDone, System.hasEnded, streams.tasks, Task.hasEnded] using idle
  · exfalso
    rcases stuck.rests writes with ⟨job, rfl, idle⟩ | ⟨put, waitsToo, puts⟩
    · -- The producer is at its end, and has cancelled the channel.
      refine run.not_asleep_of_stuck stuck (streams.closes.mpr ?_) reads takes
      cases streams.produces
      cases streams.writes.follows with
      | executing _ asks _ => cases asks.symm.trans idle
      | closing delivers => cases idle
      | ended delivers => exact ⟨_, rfl⟩
    · -- The one could only sleep for want of a row, and the other for want of room.
      cases run.condition_of_stuck stuck reads writes takes puts
      have forRow : waits = .notEmpty := by
        have asked := run.condition?_of_asleep reads takes
        rw [streams.consumes] at asked
        change worker.request.bind Request.condition? = some waits at asked
        cases left with
        | zero =>
            rw [streams.reads.reader.request_eq_none_iff.mpr rfl] at asked
            cases asked
        | succ left =>
            rw [streams.reads.reader.request] at asked
            exact (Option.some.inj asked).symm
      have forRoom : waits = .notFull := by
        have asked := run.condition?_of_asleep writes puts
        rw [streams.produces] at asked
        change producer.request.bind Request.condition? = some waits at asked
        cases streams.writes.follows with
        | executing _ asks _ =>
            rw [asks] at asked
            exact (Option.some.inj asked).symm
        | closing delivers | ended delivers => cases asked
      cases forRow.symm.trans forRoom

theorem Streams.nextDeadline_eq_none
    (streams : Streams script count events system reader writer worker ends left producer)
    (run : System.Run StreamTask.client ((start (.ofNat capacity) script).asked (nextCalls count))
      events system) : system.nextDeadline = none := by
  rw [asked_start] at run
  apply System.nextDeadline_eq_none
  intro task member
  obtain ⟨i, at_i⟩ := List.getElem?_of_mem member
  apply (run.asks at_i).deadline?_eq_none
  intro request asks
  rw [streams.tasks] at member
  rcases List.mem_pair.mp member with rfl | rfl
  · rw [streams.consumes] at asks
    change worker.request = some request at asks
    cases left with
    | zero => cases (streams.reads.reader.request_eq_none_iff.mpr rfl).symm.trans asks
    | succ left =>
        cases streams.reads.reader.request.symm.trans asks
        rfl
  · rw [streams.produces] at asks
    exact Producer.within?_of_request asks

theorem Streams.length_replies_le
    (streams : Streams script count events system reader writer worker ends left producer)
    (run : System.Run StreamTask.client ((start (.ofNat capacity) script).asked (nextCalls count))
      events system) {rows : List Row} {ending : Ending}
    (delivers : Action.Delivers script rows (some ending)) :
    (events.filterMap Event.reply?).length ≤ count + rows.length + 1 := by
  have inRange (shown : Event Row) (member : shown ∈ events) : shown.task < 2 := run.task_lt member
  have apart := length_filterMap_of_two Event.reply? inRange
  have asked := streams.reads.calls
  have pushed := streams.writes.calls
  have first := (streams.writes.follows.delivers.prefix_of_some delivers).1.length_le
  have once : producer.ending?.toList.length ≤ 1 := by
    cases producer.ending? <;> simp
  omega

theorem fuel_asked (capacity : Nat) (script : List Action) (count : Nat) :
    fuel ⟨(start (.ofNat capacity) script).asked (nextCalls count)⟩ 0 =
      16 * (count + (Producer.start script).remaining + 3) := by
  have calls : (Worker.start (nextCalls count)).todo.length = count := by
    rw [(reader_start count).todo, nextCalls, List.length_replicate]
  rw [asked_start]
  simp only [fuel, System.initial, Task.start, StreamTask.workload, calls, List.map_cons,
    List.map_nil, List.foldl_cons, List.foldl_nil, Channel.empty, List.length_nil]
  omega

/-- Where the tasks take turns, a consumer of enough calls gets all rows. -/
theorem take_of_delivers (steady : Action.Steady script) {rows : List Row} {ending : Ending}
    (delivers : Action.Delivers script rows (some ending)) (enough : rows.length < count) :
    ∃ stream, (start (.ofNat capacity) script).take count = (rows, stream) ∧
      stream.Finishes ending := by
  obtain ⟨moves, events, played, quiet, outcome⟩ := exists_play_of_runUntil
    ⟨(start (.ofNat capacity) script).asked (nextCalls count)⟩ 0 consumerDone
    fun moves events last played => by
      have run := System.Run.start.play played
      obtain ⟨_, _, _, _, _, _, streams⟩ := streams steady run
      exact streams.nextDeadline_eq_none run
  have steps := System.advances_le (asked_start _ script _ ▸ played)
  have run := System.Run.start.play played
  rw [List.nil_append] at run
  obtain ⟨reader, writer, worker, ends, left, producer, streams⟩ := streams steady run
  have done : consumerDone (runUntil
      ⟨(start (.ofNat capacity) script).asked (nextCalls count)⟩ 0 consumerDone) = true := by
    rcases outcome with stopped | stuck | spent
    · exact stopped
    · exact streams.done_of_stuck run stuck
    · -- The calls that are made pay for fewer steps than there is fuel for.
      have few := streams.length_replies_le run delivers
      have short := delivers.length_le
      rw [fuel_asked] at spent
      simp only [List.length_cons, List.length_nil] at steps
      omega
  obtain ⟨rfl, outcomes⟩ := streams.of_done done
  have first := (streams.delivers.prefix_of_some delivers).1.length_le
  have total := streams.reads.total
  obtain ⟨last, ended, all⟩ := streams.exhausted (by omega)
  obtain ⟨same, rfl⟩ := (all.prefix_of_some delivers).2 last rfl
  refine ⟨_, ?_, streams.finishes run ended⟩
  rw [← same, ← filterMap_answers (events.filterMap (Event.of 0 Event.taken?)) ends, ← outcomes]
  rfl

/-- A stream is as good as the list of the rows that its executor pushes. A consumer that asks for
one row after another gets the first of them in order, then none, and is never left to wait where
the producer waits as well. Once it has been told that there are no more rows it has got all of
them, and to finish the stream gives what the executor has returned. A consumer that stops there is
the one with one call more than there are rows. -/
theorem streaming_is_transparent (steady : Action.Steady script) (capacity count : Nat) :
    (∀ events system, System.Run StreamTask.client
        ((start (.ofNat capacity) script).asked (nextCalls count)) events system →
      (∀ i row within reply, .completed i (.put row within) reply ∈ events → reply = .stored) ∧
      (∃ rows ends, (QueryStream.mk system).consumer.outcomes = answers rows ends ∧
        Action.Delivers script rows none ∧
        ((QueryStream.mk system).consumerDone = true → rows.length + ends = count) ∧
        (ends ≠ 0 → ∃ ending, Action.Returns script rows ending ∧
          ((QueryStream.mk system).consumerDone = true →
            (QueryStream.mk system).Finishes ending))) ∧
      (system.Stuck StreamTask.client → (QueryStream.mk system).consumerDone = true)) ∧
    ∀ rows ending, Action.Delivers script rows (some ending) → rows.length < count →
      ∃ stream, (start (.ofNat capacity) script).take count = (rows, stream) ∧
        stream.Finishes ending := by
  constructor
  · intro events system run
    obtain ⟨reader, writer, worker, ends, left, producer, streams⟩ := streams steady run
    refine ⟨fun i row within reply => streams.stored run, ?_, streams.done_of_stuck run⟩
    obtain ⟨rows, missed, outcomes, ⟨more, split⟩, all⟩ :=
      exists_answers_of_prefix streams.outcomes
    refine ⟨rows, missed, outcomes, (split ▸ streams.delivers).of_append, fun done => ?_,
      fun reached => ?_⟩
    · obtain ⟨rfl, complete⟩ := streams.of_done done
      have total := streams.reads.total
      rw [← length_answers, ← outcomes, complete, length_answers]
      omega
    · obtain ⟨same, told⟩ := all reached
      obtain ⟨ending, ended, delivers⟩ := streams.exhausted told
      exact ⟨ending, same ▸ delivers.returns, fun _ => streams.finishes run ended⟩
  · intro rows ending delivers enough
    exact take_of_delivers steady delivers enough

/-! Two rows through room for one, and then a failure. -/

def twoPushed : List Action :=
  [.push (.ofNat 0), .offer (.ofNat 1), .fail (.driver "reset")]

/-- The producer has to wait with the second row, and the consumer for the end. -/
def twoTaken : List Move :=
  [.advance 1 none, .advance 1 none, .advance 1 none, .advance 1 none,
    .advance 1 none, .advance 1 none,
    .advance 0 none, .advance 0 none, .advance 0 (some 1), .advance 0 none,
    .advance 1 none, .advance 1 none, .advance 1 none, .advance 1 none,
    .advance 0 none, .advance 0 none, .advance 0 none, .advance 0 none,
    .advance 0 none, .advance 0 none,
    .advance 1 none, .advance 1 none, .advance 1 none, .advance 1 none,
    .advance 0 none, .advance 0 none]

theorem two_rows_stream_transparently :
    Action.Steady twoPushed ∧
    (∃ events system, System.Run StreamTask.client
        ((start (.ofNat 1) twoPushed).asked (nextCalls 3)) events system ∧
      system.Stuck StreamTask.client ∧ (QueryStream.mk system).consumerDone = true ∧
      (QueryStream.mk system).consumer.outcomes = answers [.ofNat 0, .ofNat 1] 1 ∧
      (QueryStream.mk system).Finishes (.failed (.driver "reset"))) ∧
    ∃ stream, (start (.ofNat 1) twoPushed).take 3 = ([.ofNat 0, .ofNat 1], stream) ∧
      stream.Finishes (.failed (.driver "reset")) := by
  have steady : Action.Steady twoPushed := trivial
  have delivers : Action.Delivers twoPushed [.ofNat 0, .ofNat 1]
      (some (.failed (.driver "reset"))) := .push (.offer .failed)
  obtain ⟨everyRun, turns⟩ := streaming_is_transparent steady 1 3
  obtain ⟨events, system, played, stuck, given⟩ : ∃ events system,
      System.play StreamTask.client ((start (.ofNat 1) twoPushed).asked (nextCalls 3)) twoTaken =
        some (events, system) ∧
      system.Stuck StreamTask.client ∧
      (QueryStream.mk system).consumer.outcomes = answers [.ofNat 0, .ofNat 1] 1 := by
    refine ⟨_, _, rfl, fun i sleeper => ?_, rfl⟩
    match i with
    | 0 => rfl
    | 1 => rfl
    | _ + 2 => rfl
  have run := System.Run.start.play played
  obtain ⟨-, ⟨rows, ends, outcomes, -, total, finishes⟩, rests⟩ := everyRun _ _ run
  have done := rests stuck
  have two : rows = [.ofNat 0, .ofNat 1] := by
    rw [← filterMap_answers rows ends, ← outcomes, given, filterMap_answers]
  have behind := total done
  rw [two, List.length_cons, List.length_cons, List.length_nil] at behind
  obtain ⟨ending, returns, finishes⟩ := finishes (by omega)
  obtain ⟨-, rfl⟩ := returns.only _ _ delivers
  exact ⟨steady, ⟨_, system, run, stuck, done, given, finishes done⟩,
    turns _ _ delivers (by decide)⟩

end QueryStream

end BindStream
