import BindStream.Proofs.Channel.Schedule
import BindStream.Proofs.Pump.Writer

namespace BindStream

/-! What a pump comes to depends on its lines and its limit alone. -/

namespace Pump

/-- The lines that a pump writes. -/
def wanted (lines : List String) (limit : Option Nat) : List String :=
  match limit with
  | none => lines
  | some most => lines.take most

/-- What a pump comes to. That the reading has failed matters only if no limit comes first. -/
def outcome (lines : List String) (failure : Option DeviceError) (text : String)
    (limit : Option Nat) : Output × Except ToolError PumpSummary :=
  let count := (wanted lines limit).length
  (⟨text ++ written (wanted lines limit), none⟩,
    if limit.any (· ≤ lines.length) then .ok ⟨count, none⟩
    else
      match failure with
      | none => .ok ⟨count, some lines.length⟩
      | some cause => .error (.device cause))

variable {lines taken : List String} {text : String} {limit : Option Nat}
variable {events : List (Event String)} {failure : Option DeviceError}
variable {capacity : Capacity} {system : System String PumpTask}

theorem wanted_of_limit (some : limit = some taken.length) (first : taken <+: lines) :
    wanted lines limit = taken ∧ limit.any (· ≤ lines.length) = true := by
  subst some
  constructor
  · exact (List.prefix_iff_eq_take.mp first).symm
  · simpa using first.length_le

theorem wanted_of_hungry (hungry : limit.all (lines.length < ·) = true) :
    wanted lines limit = lines ∧ limit.any (· ≤ lines.length) = false := by
  cases limit with
  | none => exact ⟨rfl, rfl⟩
  | some most =>
      simp only [Option.all_some, decide_eq_true_eq] at hungry
      constructor
      · exact List.take_of_length_le (Nat.le_of_lt hungry)
      · simpa using hungry

/-- A pump on its way; its tasks are taken as they will be once they have been given the replies at
hand. -/
structure Pumps (lines : List String) (failure : Option DeviceError) (text : String)
    (limit : Option Nat) (events : List (Event String)) (system : System String PumpTask)
    (first second : Task String PumpTask) (writer : Writer) (stopped : Bool) (reader : Reader)
    (closed : Bool) : Prop where
  tasks : system.tasks = [first, second]
  drains : first.outlook PumpTask.client = .writer writer
  writes : Writes lines text limit events stopped writer
  feeds : second.outlook PumpTask.client = .reader reader
  reads : Reads lines failure events closed reader
  ordered : events.filterMap (Event.of 0 Event.taken?) ++ system.channel.queue =
    events.filterMap (Event.of 1 Event.accepted?)

theorem pumps (run : System.Run PumpTask.client
      (start lines failure ⟨text, none⟩ capacity limit).system events system) :
    ∃ first second writer stopped reader closed,
      Pumps lines failure text limit events system first second writer stopped reader closed := by
  obtain ⟨first, second, tasks⟩ := List.length_eq_two.mp run.length_tasks
  have at_0 : system.tasks[0]? = some first := by rw [tasks]; rfl
  have at_1 : system.tasks[1]? = some second := by rw [tasks]; rfl
  obtain ⟨writer, stopped, written, writes⟩ := writes run at_0
  obtain ⟨reader, closed, read, reads⟩ := reads run at_1
  have ordered := run.ordered_of_two writes.tells.unseen reads.tells.unseen
  exact ⟨first, second, writer, stopped, reader, closed, tasks, written, writes, read, reads,
    ordered⟩

theorem writer?_eq_some {writer : Writer} (found : (Pump.mk system).writer? = some writer) :
    ∃ phase, system.tasks[0]? = some ⟨.writer writer, phase⟩ := by
  unfold writer? job? at found
  cases at_0 : system.tasks[0]? with
  | none => simp [at_0] at found
  | some task =>
      obtain ⟨job, phase⟩ := task
      cases job with
      | writer w =>
          simp only [at_0, Option.map_some, Option.some.injEq] at found
          exact ⟨phase, by rw [found]⟩
      | reader r => simp [at_0] at found

theorem reader?_eq_some {reader : Reader} (found : (Pump.mk system).reader? = some reader) :
    ∃ phase, system.tasks[1]? = some ⟨.reader reader, phase⟩ := by
  unfold reader? job? at found
  cases at_1 : system.tasks[1]? with
  | none => simp [at_1] at found
  | some task =>
      obtain ⟨job, phase⟩ := task
      cases job with
      | writer w => simp [at_1] at found
      | reader r =>
          simp only [at_1, Option.map_some, Option.some.injEq] at found
          exact ⟨phase, by rw [found]⟩

variable {first second : Task String PumpTask} {writer : Writer} {stopped closed : Bool}
variable {reader : Reader} {stop : Stop}

theorem Pumps.taken_prefix
    (pumps : Pumps lines failure text limit events system first second writer stopped reader
      closed) : events.filterMap (Event.of 0 Event.taken?) <+: lines :=
  (List.prefix_append _ _).trans (pumps.ordered ▸ pumps.reads.feeds.of_lines)

/-- A writer that has stopped has written what it should. -/
theorem Pumps.wrote
    (pumps : Pumps lines failure text limit events system first second writer stopped reader
      closed) (ended : writer.stage = .ended stop) :
    writer.output = ⟨text ++ written (wanted lines limit), none⟩ ∧
      writer.consumed = (wanted lines limit).length ∧
      (stop = .limitReached ∧ limit.any (· ≤ lines.length) = true ∨
        stop = .ranDry ∧ limit.any (· ≤ lines.length) = false ∧
          events.filterMap (Event.of 0 Event.taken?) = lines) := by
  obtain ⟨sameLimit, consumed, output, stage⟩ := pumps.writes.writes
  rw [ended] at stage
  cases stage with
  | ended halts =>
      cases stop with
      | outputFull => exact halts.elim
      | limitReached =>
          obtain ⟨same, within⟩ := wanted_of_limit halts pumps.taken_prefix
          rw [consumed, output, same]
          exact ⟨rfl, rfl, .inl ⟨rfl, within⟩⟩
      | ranDry =>
          obtain ⟨all, hungry⟩ := halts
          rw [all] at hungry consumed output
          obtain ⟨same, beyond⟩ := wanted_of_hungry hungry
          rw [consumed, output, same]
          exact ⟨rfl, rfl, .inr ⟨rfl, beyond, all⟩⟩

/-- A reader whose lines have all been taken ends with what has ended its lines. -/
theorem Pumps.read
    (pumps : Pumps lines failure text limit events system first second writer stopped reader
      closed) (all : events.filterMap (Event.of 0 Event.taken?) = lines)
    {cause : Option DeviceError} {produced : Nat} (ended : reader = .ended cause produced) :
    cause = failure ∧ produced = lines.length := by
  have feeds := pumps.reads.feeds
  rw [ended] at feeds
  generalize before : events.filterMap (Event.of 1 Event.accepted?) = accepted at feeds
  cases feeds with
  | ended => exact ⟨rfl, rfl⟩
  | left split told =>
      -- Not all lines of such a reader were accepted, so not all can have been taken.
      have ordered := congrArg List.length pumps.ordered
      have more := congrArg List.length split
      rw [before, all, List.length_append] at ordered
      rw [List.length_append, List.length_cons] at more
      omega

theorem Pumps.writer_eq (run : System.Run PumpTask.client
      (start lines failure ⟨text, none⟩ capacity limit).system events system)
    (pumps : Pumps lines failure text limit events system first second writer stopped reader
      closed) {found : Writer} (written : (Pump.mk system).writer? = some found)
    (stops : found.stop? = some stop) : writer = found ∧ writer.stage = .ended stop := by
  have ended : found.stage = .ended stop := by
    unfold Writer.stop? at stops
    split at stops
    · next last same =>
        cases stops
        exact same
    · cases stops
  obtain ⟨phase, at_0⟩ := writer?_eq_some written
  have idle : PumpTask.client.request (.writer found) = none := by
    simp [PumpTask.client, PumpTask.request, Writer.request, ended]
  cases (run.asks at_0).ready idle
  have first := at_0
  rw [pumps.tasks] at first
  cases first
  cases pumps.drains
  exact ⟨rfl, ended⟩

theorem Pumps.reader_eq (run : System.Run PumpTask.client
      (start lines failure ⟨text, none⟩ capacity limit).system events system)
    (pumps : Pumps lines failure text limit events system first second writer stopped reader
      closed) {cause : Option DeviceError} {produced : Nat}
    (read : (Pump.mk system).reader? = some (.ended cause produced)) :
    reader = .ended cause produced := by
  obtain ⟨phase, at_1⟩ := reader?_eq_some read
  cases (run.asks at_1).ready rfl
  have second := at_1
  rw [pumps.tasks] at second
  cases second
  cases pumps.feeds
  rfl

/-- A result is the one that the lines and the limit determine. -/
theorem result_eq_outcome (run : System.Run PumpTask.client
      (start lines failure ⟨text, none⟩ capacity limit).system events system)
    {result : Output × Except ToolError PumpSummary}
    (returned : (Pump.mk system).result? = some result) :
    result = outcome lines failure text limit ∧
      ∃ writer, (Pump.mk system).writer? = some writer ∧
        writer.consumed = (wanted lines limit).length := by
  obtain ⟨first, second, writer, stopped, reader, closed, pumps⟩ := pumps run
  obtain ⟨found, written, returned⟩ := Option.bind_eq_some_iff.mp returned
  obtain ⟨stop, stops, returned⟩ := Option.bind_eq_some_iff.mp returned
  obtain ⟨rfl, ended⟩ := pumps.writer_eq run written stops
  obtain ⟨output, consumed, ends⟩ := pumps.wrote ended
  refine ⟨?_, writer, written, consumed⟩
  rcases ends with ⟨rfl, within⟩ | ⟨rfl, beyond, all⟩
  · cases returned
    simp [outcome, output, consumed, within]
  · obtain ⟨last, read, returned⟩ := Option.bind_eq_some_iff.mp returned
    cases last with
    | ended cause produced =>
        obtain ⟨rfl, rfl⟩ := pumps.read all (pumps.reader_eq run read)
        cases cause with
        | none =>
            cases returned
            simp [outcome, output, consumed, beyond]
        | some cause =>
            cases returned
            simp [outcome, output, beyond]
    | reading | closing => cases returned

theorem Pumps.cancelled_of_writer (run : System.Run PumpTask.client
      (start lines failure ⟨text, none⟩ capacity limit).system events system)
    (pumps : Pumps lines failure text limit events system first second writer stopped reader
      closed) (idle : writer.request = none) :
    system.channel.cancelled = true ∧ ∃ stop, writer.stage = .ended stop := by
  have stage := pumps.writes.writes.stage
  unfold Writer.request at idle
  generalize writer.stage = now at idle stage
  cases stage with
  | draining | closing => cases idle
  | ended halts =>
      exact ⟨run.cancelled_iff.mpr ⟨0, pumps.writes.tells.told.mp rfl⟩, _, rfl⟩

theorem Pumps.cancelled_of_reader (run : System.Run PumpTask.client
      (start lines failure ⟨text, none⟩ capacity limit).system events system)
    (pumps : Pumps lines failure text limit events system first second writer stopped reader
      closed) (idle : reader.request = none) :
    system.channel.cancelled = true ∧ ∃ cause produced, reader = .ended cause produced := by
  have feeds := pumps.reads.feeds
  have told := pumps.reads.tells.told
  generalize events.filterMap (Event.of 1 Event.accepted?) = accepted at feeds
  cases feeds with
  | reading | closing | refused => cases idle
  | ended | left => exact ⟨run.cancelled_iff.mpr ⟨1, told.mp rfl⟩, _, _, rfl⟩

/-- A pump in which no task can take a step has come to its result. -/
theorem result?_isSome_of_stuck (run : System.Run PumpTask.client
      (start lines failure ⟨text, none⟩ capacity limit).system events system)
    (stuck : system.Stuck PumpTask.client) :
    (Pump.mk system).result?.isSome = true := by
  obtain ⟨first, second, writer, stopped, reader, closed, pumps⟩ := pumps run
  have writes : first ∈ system.tasks := by simp [pumps.tasks]
  have reads : second ∈ system.tasks := by simp [pumps.tasks]
  rcases stuck.rests writes with ⟨job, rfl, idle⟩ | ⟨take, slept, takes⟩
  · cases pumps.drains
    obtain ⟨shut, stop, ended⟩ := pumps.cancelled_of_writer run idle
    rcases stuck.rests reads with ⟨job, rfl, idle⟩ | ⟨put, slept, puts⟩
    · cases pumps.feeds
      obtain ⟨-, cause, produced, rfl⟩ := pumps.cancelled_of_reader run idle
      have written : (Pump.mk system).writer? = some writer := by
        simp [writer?, job?, pumps.tasks]
      have read : (Pump.mk system).reader? = some (.ended cause produced) := by
        simp [reader?, job?, pumps.tasks]
      have stops : writer.stop? = some stop := by simp [Writer.stop?, ended]
      obtain ⟨-, -, ⟨rfl, -⟩ | ⟨rfl, -⟩⟩ := pumps.wrote ended
      · simp [result?, written, stops]
      · cases cause <;> simp [result?, written, stops, read]
    · exact absurd puts (run.not_asleep_of_stuck stuck shut reads)
  · exfalso
    rcases stuck.rests reads with ⟨job, rfl, idle⟩ | ⟨put, sleptToo, puts⟩
    · cases pumps.feeds
      exact run.not_asleep_of_stuck stuck (pumps.cancelled_of_reader run idle).1 writes takes
    · -- Asleep on one condition, while one waits for a row and the other for room.
      cases run.condition_of_stuck stuck writes reads takes puts
      have forRow : slept = .notEmpty := by
        have asked := run.condition?_of_asleep writes takes
        rw [pumps.drains] at asked
        change writer.request.bind Request.condition? = some slept at asked
        unfold Writer.request at asked
        split at asked
        · exact (Option.some.inj asked).symm
        · cases asked
        · cases asked
      have forRoom : slept = .notFull := by
        have asked := run.condition?_of_asleep reads puts
        rw [pumps.feeds] at asked
        cases reader with
        | reading => exact (Option.some.inj asked).symm
        | closing | ended => cases asked
      cases forRow.symm.trans forRoom

theorem length_replies_le (run : System.Run PumpTask.client
      (start lines failure ⟨text, none⟩ capacity limit).system events system) :
    (events.filterMap Event.reply?).length ≤ 2 * lines.length + 3 := by
  obtain ⟨first, second, writer, stopped, reader, closed, pumps⟩ := pumps run
  have inRange (shown : Event String) (member : shown ∈ events) : shown.task < 2 :=
    run.task_lt member
  have apart := length_filterMap_of_two Event.reply? inRange
  have writes := pumps.writes.calls
  have reads := pumps.reads.calls
  have taken := pumps.taken_prefix.length_le
  have stops : writer.stage.calls ≤ 2 := by
    cases writer.stage <;> simp [Writer.Stage.calls]
  omega

/-- No call of a pump is bounded in time. -/
theorem within?_of_request {job : PumpTask} {request : Request String}
    (asks : PumpTask.client.request job = some request) : request.within? = none := by
  cases job with
  | writer w =>
      change w.request = some request at asks
      unfold Writer.request at asks
      split at asks <;> cases asks <;> rfl
  | reader r => cases r <;> cases asks <;> rfl

theorem nextDeadline_eq_none (run : System.Run PumpTask.client
      (start lines failure ⟨text, none⟩ capacity limit).system events system) :
    system.nextDeadline = none := by
  apply System.nextDeadline_eq_none
  intro task member
  obtain ⟨i, at_i⟩ := List.getElem?_of_mem member
  exact (run.asks at_i).deadline?_eq_none fun _ => within?_of_request

theorem result?_of_stuck (run : System.Run PumpTask.client
      (start lines failure ⟨text, none⟩ capacity limit).system events system)
    (stuck : system.Stuck PumpTask.client) :
    (Pump.mk system).result? = some (outcome lines failure text limit) := by
  obtain ⟨result, returned⟩ := Option.isSome_iff_exists.mp (result?_isSome_of_stuck run stuck)
  rw [returned, (result_eq_outcome run returned).1]

theorem advances_le {moves : List Move}
    (played : (start lines failure ⟨text, none⟩ capacity limit).system.play PumpTask.client
      moves = some (events, system)) :
    moves.countP Move.advances ≤ 14 * lines.length + 25 + moves.countP Move.rouses := by
  have steps := System.advances_le played
  have calls := length_replies_le (System.Run.start.play played)
  simp only [List.length_cons, List.length_nil, List.nil_append] at steps calls
  omega

theorem exists_play_of_run (lines : List String) (failure : Option DeviceError) (text : String)
    (capacity : Capacity) (limit : Option Nat) (fuel : Nat) :
    ∃ moves events,
      (start lines failure ⟨text, none⟩ capacity limit).system.play PumpTask.client moves =
        some (events, ((start lines failure ⟨text, none⟩ capacity limit).run fuel).system) ∧
      moves.countP Move.rouses = 0 ∧
      (((start lines failure ⟨text, none⟩ capacity limit).run fuel).result?.isSome = true ∨
        ((start lines failure ⟨text, none⟩ capacity limit).run fuel).system.Stuck
          PumpTask.client ∨ fuel ≤ moves.countP Move.advances) :=
  System.exists_play_of_run fuel fun _ _ _ played =>
    nextDeadline_eq_none (System.Run.start.play played)

/-- The schedule in which reader and writer take turns brings a pump to its result. -/
theorem result?_run (lines : List String) (failure : Option DeviceError) (text : String)
    (capacity : Capacity) (limit : Option Nat) :
    ((start lines failure ⟨text, none⟩ capacity limit).run (fuel lines.length)).result? =
      some (outcome lines failure text limit) := by
  obtain ⟨moves, events, played, quiet, ends⟩ :=
    exists_play_of_run lines failure text capacity limit (fuel lines.length)
  have run := System.Run.start.play played
  rcases ends with stopped | stuck | spent
  · obtain ⟨result, returned⟩ := Option.isSome_iff_exists.mp stopped
    have same := (result_eq_outcome run returned).1
    rw [same] at returned
    exact returned
  · exact result?_of_stuck run stuck
  · have bound := advances_le played
    rw [fuel] at spent
    omega

/-- A pump to an output without bound comes to the same end however its reader and its writer take
their steps, and they do not go on for ever: wherever neither can take a step the result is there,
and the steps that they take are bounded, but for the wake-ups that no one has asked for. -/
theorem pump_is_determined (lines : List String) (failure : Option DeviceError) (text : String)
    (limit : Option Nat) :
    (∀ capacity moves events system,
      (start lines failure ⟨text, none⟩ capacity limit).system.play PumpTask.client moves =
        some (events, system) →
      (∀ result, (Pump.mk system).result? = some result →
        result = outcome lines failure text limit ∧
          ∃ writer, (Pump.mk system).writer? = some writer ∧
            writer.consumed = (wanted lines limit).length) ∧
      (system.Stuck PumpTask.client →
        (Pump.mk system).result? = some (outcome lines failure text limit)) ∧
      moves.countP Move.advances ≤ 14 * lines.length + 25 + moves.countP Move.rouses) ∧
    ∀ feed capacity, feed.lines = (lines.map String.toList, failure) →
      pump feed ⟨text, none⟩ capacity limit = outcome lines failure text limit := by
  constructor
  · intro capacity moves events system played
    have run := System.Run.start.play played
    exact ⟨fun result => result_eq_outcome run, result?_of_stuck run, advances_le played⟩
  · intro feed capacity read
    have same : (lines.map String.toList).map String.ofList = lines := by simp
    have returned := result?_run lines failure text (.ofNat capacity) limit
    simp [pump, read, same, returned]

/-! Two lines and then a failed read, which a limit of two keeps from being seen. -/

def twoLines : Feed := ⟨[97, 10, 98, 10, 99], some "reset"⟩

def twoPumped : System String PumpTask :=
  ⟨⟨.ofNat 1, [], true⟩, 0,
    [⟨.writer ⟨some 2, 2, ⟨"a\nb\n", none⟩, .ended .limitReached⟩, .ready⟩,
      ⟨.reader (.ended (some (.fault "reset")) 2), .ready⟩]⟩

def pumpTwo : List Move :=
  (List.replicate 6 [Move.advance 1 none, .advance 1 none, .advance 0 none]).flatten ++
    .advance 1 none :: List.replicate 5 (.advance 0 none)

theorem pump_of_two_lines :
    (∃ events, (start ["a", "b"] (some (.fault "reset")) ⟨"", none⟩ (.ofNat 1) (some 2)).system.play
        PumpTask.client pumpTwo = some (events, twoPumped)) ∧
      twoPumped.Stuck PumpTask.client ∧
      (Pump.mk twoPumped).result? = some (⟨"a\nb\n", none⟩, .ok ⟨2, none⟩) ∧
      twoLines.lines = (["a", "b"].map String.toList, some (.fault "reset")) ∧
      pump twoLines ⟨"", none⟩ 1 none = (⟨"a\nb\n", none⟩, .error (.device (.fault "reset"))) := by
  have played : (start ["a", "b"] (some (.fault "reset")) ⟨"", none⟩ (.ofNat 1)
      (some 2)).system.play PumpTask.client pumpTwo = some (_, twoPumped) := rfl
  have stuck : twoPumped.Stuck PumpTask.client := by
    intro i sleeper
    match i with
    | 0 => rfl
    | 1 => rfl
    | _ + 2 => rfl
  have read : twoLines.lines = (["a", "b"].map String.toList, some (.fault "reset")) := rfl
  refine ⟨⟨_, played⟩, stuck, ?_, read, ?_⟩
  · exact ((pump_is_determined _ _ _ _).1 _ _ _ _ played).2.1 stuck
  · exact (pump_is_determined _ _ _ _).2 twoLines 1 read

end Pump

end BindStream
