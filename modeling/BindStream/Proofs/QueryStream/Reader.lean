import BindStream.Proofs.Channel.Worker
import BindStream.Proofs.QueryStream.Closing

namespace BindStream.QueryStream

/-! The consumer that asks a stream for one row after another. -/

def nextCalls (count : Nat) : List (Operation Row) :=
  List.replicate count (.query cursorName .next)

/-- The answers to a consumer that gets some rows and is then told that there are no more, once or
several times. -/
def answers (rows : List Row) (ends : Nat) : List (Outcome Row) :=
  rows.map (fun row => .answer (.row (some row))) ++ List.replicate ends (.answer (.row none))

variable {rows more : List Row} {ends later left count : Nat} {worker : Worker Row}

theorem length_answers (rows : List Row) (ends : Nat) :
    (answers rows ends).length = rows.length + ends := by
  simp [answers]

theorem filterMap_answers (rows : List Row) (ends : Nat) :
    (answers rows ends).filterMap rowOf? = rows := by
  simp [answers, List.filterMap_map, Function.comp_def, rowOf?]

theorem answers_row (rows : List Row) (row : Row) :
    answers rows 0 ++ [.answer (.row (some row))] = answers (rows ++ [row]) 0 := by
  simp [answers]

theorem answers_none (rows : List Row) (ends : Nat) :
    answers rows ends ++ [.answer (.row none)] = answers rows (ends + 1) := by
  simp [answers, List.replicate_succ']

/-- The first of such answers are such answers, and have an end among them only behind all rows. -/
theorem exists_answers_of_prefix {outcomes : List (Outcome Row)}
    (first : outcomes <+: answers rows ends) :
    ∃ given missed, outcomes = answers given missed ∧ given <+: rows ∧
      (missed ≠ 0 → given = rows ∧ ends ≠ 0) := by
  refine ⟨rows.take outcomes.length, min (outcomes.length - rows.length) ends, ?_,
    List.take_prefix _ _, fun missed => ⟨List.take_of_length_le ?_, ?_⟩⟩
  · have cut := List.prefix_iff_eq_take.mp first
    generalize outcomes.length = n at cut
    rw [cut, answers, answers, List.take_append, List.length_map, List.map_take,
      List.take_replicate]
  · omega
  · omega

/-- A consumer that has been given some rows, and has `left` calls ahead of it. -/
structure Reader (rows : List Row) (ends left : Nat) (worker : Worker Row) : Prop where
  todo : worker.todo = nextCalls left
  cursor : worker.cursor cursorName = .empty
  outcomes : worker.outcomes = answers rows ends

theorem settle_nextCalls (empty : worker.cursor cursorName = .empty) (left : Nat) :
    worker.settle (nextCalls left) = { worker with todo := nextCalls left } := by
  cases left with
  | zero => rfl
  | succ left =>
      rw [nextCalls, List.replicate_succ, Worker.settle, empty]
      rfl

theorem reader_start (count : Nat) : Reader [] 0 count (.start (nextCalls count)) := by
  rw [Worker.start, settle_nextCalls rfl]
  exact ⟨rfl, rfl, rfl⟩

theorem Reader.request (reader : Reader rows ends (left + 1) worker) :
    worker.request = some (.take none) := by
  rw [Worker.request, reader.todo]
  rfl

theorem Reader.request_eq_none_iff (reader : Reader rows ends left worker) :
    worker.request = none ↔ left = 0 := by
  cases left with
  | zero => simp [Worker.request, reader.todo, nextCalls]
  | succ left => simp [reader.request]

theorem Reader.resume (reader : Reader rows ends (left + 1) worker) {reply : Reply Row}
    {answer : Cursor.Answer Row} (received : Cursor.receive .next reply = (answer, .empty))
    (grows : answers rows ends ++ [.answer answer] = answers more later) :
    Reader more later left (worker.resume reply) := by
  have empty : ((worker.setCursor cursorName .empty).report (.answer answer)).cursor cursorName =
      .empty := by
    have set := worker.cursor_setCursor cursorName cursorName .empty
    rwa [if_pos rfl] at set
  have resumed : worker.resume reply =
      { (worker.setCursor cursorName .empty).report (.answer answer) with
        todo := nextCalls left } := by
    rw [← settle_nextCalls empty, Worker.resume, reader.todo, nextCalls, List.replicate_succ]
    simp only [received]
    rfl
  rw [resumed]
  exact ⟨rfl, empty, (congrArg (· ++ [_]) reader.outcomes).trans grows⟩

/-- A consumer of `count` calls, of which `left` are ahead. It has been told that there are no more
rows only if the channel has none and gets none. -/
structure Reads (count : Nat) (events : List (Event Row)) (channel : Channel Row)
    (worker : Worker Row) (ends left : Nat) : Prop where
  reader : Reader (events.filterMap (Event.of 0 Event.taken?)) ends left worker
  total : (events.filterMap (Event.of 0 Event.taken?)).length + ends + left = count
  atEnd : ends ≠ 0 → channel.cancelled = true ∧ channel.queue = []
  requests : ∀ request reply, .completed 0 request reply ∈ events → request = .take none
  calls : (events.filterMap (Event.of 0 Event.reply?)).length + left = count

theorem Reads.others {events : List (Event Row)} {channel next : Channel Row}
    {event : Option (Event Row)} (reads : Reads count events channel worker ends left)
    (others : ∀ shown ∈ event, ∀ request reply, shown ≠ .completed 0 request reply)
    (moved : channel.Moved next) :
    Reads count (events ++ event.toList) next worker ends left := by
  have taken : (events ++ event.toList).filterMap (Event.of 0 Event.taken?) = _ :=
    filterMap_of_others (fun _ => Event.completed_of_taken?) others
  have replies : (events ++ event.toList).filterMap (Event.of 0 Event.reply?) = _ :=
    filterMap_of_others (fun _ => Event.completed_of_reply?) others
  constructor
  · rw [taken]
    exact reads.reader
  · rw [taken]
    exact reads.total
  · intro reached
    exact moved.drained (reads.atEnd reached).1 (reads.atEnd reached).2
  · intro request reply shown
    exact reads.requests request reply (mem_of_others others shown)
  · rw [replies]
    exact reads.calls

theorem Reads.answer {events : List (Event Row)} {channel next : Channel Row}
    {request : Request Row} {expired : Bool} {signals : List Signal} {reply : Reply Row}
    (reads : Reads count events channel worker ends left) (asks : worker.request = some request)
    (patient : expired = true → request.within? ≠ none)
    (served : channel.Served expired request next signals reply) :
    ∃ later left, Reads count (events ++ [.completed 0 request reply]) next
      (worker.resume reply) later left := by
  obtain ⟨reader, total, atEnd, requests, calls⟩ := reads
  cases left with
  | zero => cases (reader.request_eq_none_iff.mpr rfl).symm.trans asks
  | succ left =>
      cases reader.request.symm.trans asks
      have taken : (events ++ [Event.completed 0 (.take none) reply]).filterMap
          (Event.of 0 Event.taken?) = events.filterMap (Event.of 0 Event.taken?) ++
            (Event.completed 0 (.take none) reply).taken?.toList := filterMap_snoc _ _ _
      have replies := length_replies_snoc 0 events (.take none) reply
      have requests (asked : Request Row) (given : Reply Row)
          (shown : .completed 0 asked given ∈ events ++ [.completed 0 (.take none) reply]) :
          asked = .take none := by
        rcases mem_completed_snoc.mp shown with before | ⟨rfl, -⟩
        · exact requests asked given before
        · rfl
      cases served with
      | @taken _ row queue takes oldest =>
          -- There is a row, so the consumer cannot have been told that there are none.
          have first : ends = 0 := by
            by_contra reached
            cases (atEnd reached).2.symm.trans oldest
          subst first
          refine ⟨0, left, ?_, ?_, absurd rfl, requests, by omega⟩
          · rw [taken]
            exact reader.resume rfl (answers_row _ row)
          · rw [taken, List.length_append]
            simp only [Event.taken?, Option.toList_some, List.length_singleton]
            omega
      | takeCancelled takes empty closed =>
          refine ⟨ends + 1, left, ?_, ?_, fun _ => ⟨closed, empty⟩, requests, by omega⟩
          · rw [taken.trans (List.append_nil _)]
            exact reader.resume rfl (answers_none _ ends)
          · rw [taken.trans (List.append_nil _)]
            omega
      | takeTimedOut empty opened elapsed => exact absurd rfl (patient elapsed)

variable {capacity : Nat} {script : List Action} {events : List (Event Row)}
variable {system : System Row StreamTask}

theorem reads
    (run : System.Run StreamTask.client ((start (.ofNat capacity) script).asked (nextCalls count))
      events system) {task : Task Row StreamTask} (at_0 : system.tasks[0]? = some task) :
    ∃ worker ends left, task.outlook StreamTask.client = .consumer worker ∧
      Reads count events system.channel worker ends left := by
  rw [asked_start] at run
  refine run.forall_jobs (motive := fun events channel i job => i = 0 →
    ∃ worker ends left, job = .consumer worker ∧
      Reads count events channel worker ends left) ?_ ?_ at_0 rfl
  · rintro i job at_i rfl
    cases at_i
    exact ⟨_, 0, count, rfl, reader_start count, by simp, absurd rfl, by simp, by simp⟩
  · rintro events system next i event old new run before turn rfl
    obtain ⟨worker, ends, left, rfl, reads⟩ := before rfl
    cases turn with
    | others others moved => exact ⟨worker, ends, left, rfl, reads.others others moved⟩
    | answer asks patient served =>
        obtain ⟨ends, left, reads⟩ := reads.answer asks patient served
        exact ⟨_, ends, left, rfl, reads⟩

/-- As long as the consumer only asks for rows, it is the producer who cancels the channel. -/
theorem closed_by_producer
    (run : System.Run StreamTask.client ((start (.ofNat capacity) script).asked (nextCalls count))
      events system) (closed : system.channel.cancelled = true) :
    .completed 1 .cancel .done ∈ events := by
  obtain ⟨task, at_0⟩ : ∃ task, system.tasks[0]? = some task := by
    refine ⟨_, List.getElem?_eq_getElem ?_⟩
    rw [run.length_tasks]
    exact Nat.zero_lt_two
  obtain ⟨_, _, _, -, reads⟩ := reads run at_0
  obtain ⟨i, shown⟩ := (System.Run.cancelled_iff (asked_start _ script _ ▸ run)).mp closed
  have inRange : i < 2 := run.task_lt shown
  have which : i = 0 ∨ i = 1 := by omega
  rcases which with rfl | rfl
  · cases reads.requests _ _ shown
  · exact shown

end BindStream.QueryStream
