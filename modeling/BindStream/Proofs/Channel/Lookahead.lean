import BindStream.Proofs.Channel.Books
import BindStream.Proofs.Channel.Job
import BindStream.Proofs.Channel.Order
import Mathlib.Data.List.Perm.Basic

namespace BindStream

/-! Cursors on one channel neither lose a row nor hand it out twice. -/

variable {ρ : Type}

namespace Act

/-- Whether a cursor's slot is empty after an act, whatever it held. -/
def empties (name : String) : Act ρ → Bool
  | opened other _ => other == name
  | dropped other _ _ => other == name
  | answered other .next _ _ => other == name
  | answered other .nextRow _ _ => other == name
  | began other _ => other == name
  | finished other _ => other == name
  | _ => false

/-- The cursor that an act is about. -/
def cursor? : Act ρ → Option String
  | asked _ _ => none
  | opened name _ => some name
  | dropped name _ _ => some name
  | answered name _ _ _ => some name
  | began name _ => some name
  | collected name _ => some name
  | finished name _ => some name

variable {act : Act ρ} {before between acts : List (Act ρ)} {name : String} {row : ρ}

theorem slot_of_other (other : act.cursor? ≠ some name) (held : Option ρ) :
    act.empties name = false ∧ act.slot name held = held := by
  cases act with
  | answered shown query => cases query <;> simp_all [cursor?, empties, slot]
  | _ => simp_all [cursor?, empties, slot]

/-- A row leaves a slot only by being handed on, or with the cursor. -/
theorem Follows.keeps (follows : act.Follows before) (held : slotAfter name before = some row) :
    act.empties name = false ∧ act.slot name (some row) = some row ∨
      act.empties name = true ∧ act.slot name (some row) = none ∧
        (act.rowThrough? name = some row ∨ act.lost? = some row) := by
  by_cases own : act.cursor? = some name
  · cases act with
    | asked request reply => cases own
    | opened | dropped =>
        cases own
        exact .inr ⟨by simp [empties], by simp [slot], .inr (follows.trans held)⟩
    | began =>
        cases own
        cases follows.trans held
        exact .inr (by simp [empties, slot, rowThrough?, given?])
    | collected => exact .inl ⟨rfl, rfl⟩
    | finished =>
        cases own
        cases follows.1.symm.trans held
    | answered other query answer left =>
        cases own
        rw [Follows, held] at follows
        cases query with
        | hasNext | peek =>
            cases follows
            exact .inl (by simp [empties, slot])
        | next | nextRow =>
            cases follows
            exact .inr (by simp [empties, slot, rowThrough?, given?])
  · exact .inl (slot_of_other own _)

theorem slotAfter_of_kept (follows : ∀ before act, before ++ [act] <+: acts → act.Follows before)
    (shown : before ++ between <+: acts) (held : slotAfter name before = some row)
    (kept : ∀ act ∈ between, act.empties name = false) :
    slotAfter name (before ++ between) = some row := by
  -- The acts between are taken from the front, so that each comes behind acts that are known.
  induction between generalizing before with
  | nil => simpa using held
  | cons act between ih =>
      rw [List.append_cons] at shown ⊢
      have first : before ++ [act] <+: acts := (List.prefix_append _ _).trans shown
      apply ih shown
      · rw [slotAfter_snoc, held]
        rcases (follows before act first).keeps held with stays | leaves
        · exact stays.2
        · exact absurd leaves.1 (by simp [kept act List.mem_cons_self])
      · intro act member
        exact kept act (List.mem_cons_of_mem _ member)

/-- A row at hand or fetched is presented; without one the slot stays empty. -/
theorem Follows.answer {query : Cursor.Query} {answer : Cursor.Answer ρ} {left : Option ρ}
    (follows : (Act.answered name query answer left).Follows before) :
    (∃ row, (answer, ⟨left⟩) = Cursor.present row query) ∨
      left = none ∧ ∃ cause, answer = Cursor.miss cause query := by
  unfold Follows at follows
  cases held : slotAfter name before with
  | some row =>
      simp only [held] at follows
      exact .inl ⟨row, follows⟩
  | none =>
      simp only [held] at follows
      obtain ⟨reply, received⟩ := follows
      cases reply with
      | row row => exact .inl ⟨row, received⟩
      | failed cause =>
          cases received
          exact .inr ⟨rfl, cause, rfl⟩
      | _ =>
          cases received
          exact .inr ⟨rfl, .cancelled, rfl⟩

theorem Follows.peeked {answer : Cursor.Answer ρ} {left : Option ρ}
    (follows : (Act.answered name .peek answer left).Follows before) : answer = .row left := by
  rcases follows.answer with ⟨row, presents⟩ | ⟨rfl, cause, rfl⟩
  · cases presents
    rfl
  · rfl

theorem Follows.buffered {answer : Cursor.Answer ρ} {left : Option ρ} {within : Option Nat}
    (follows : (Act.answered name (.hasNext within) answer left).Follows before) :
    answer = .flag true ↔ left.isSome := by
  rcases follows.answer with ⟨row, presents⟩ | ⟨rfl, cause, rfl⟩
  · cases presents
    simp
  · cases within <;> cases cause <;> simp [Cursor.miss]

theorem Follows.returned {query : Cursor.Query} {answer : Cursor.Answer ρ} {left : Option ρ}
    (follows : (Act.answered name query answer left).Follows before)
    (held : slotAfter name before = some row) (gives : query = .next ∨ query = .nextRow) :
    answer = .row (some row) ∧ left = none := by
  rw [Follows, held] at follows
  rcases gives with rfl | rfl
  · cases follows
    exact ⟨rfl, rfl⟩
  · cases follows
    exact ⟨rfl, rfl⟩

theorem exists_prefix_of_mem (member : act ∈ acts) : ∃ before, before ++ [act] <+: acts := by
  obtain ⟨before, after, rfl⟩ := List.append_of_mem member
  exact ⟨before, after, by simp⟩

end Act

namespace Worker

variable {worker : Worker ρ} {script : List (Operation ρ)} {done : List (Act ρ)}
variable {taken accepted : List ρ} {replies : List (Reply ρ)}

/-- What a worker has done with its script, and what becomes of a row in a cursor's slot. -/
structure Accounts (script : List (Operation ρ)) (done : List (Act ρ)) (worker : Worker ρ)
    (accepted : List ρ) : Prop where
  operations : done.filterMap Act.operation? ++ worker.todo = script
  outcomes : worker.outcomes = done.filterMap Act.outcome?
  slots : ∀ name, (worker.cursor name).lookahead = slotAfter name done
  collected : worker.collected = gathered done
  finished : ∀ name before rows, before ++ [.finished name rows] <+: done → rows = gathered before
  order : ∀ name,
    (done.filterMap (Act.rowThrough? name) ++ (slotAfter name done).toList).Sublist accepted
  kept : ∀ name before act row, before ++ [act] <+: done → slotAfter name before = some row →
    act.empties name = false ∧ slotAfter name (before ++ [act]) = some row ∨
      act.empties name = true ∧ slotAfter name (before ++ [act]) = none ∧
        (act.rowThrough? name = some row ∨ act.lost? = some row)
  peeked : ∀ name answer left, .answered name .peek answer left ∈ done → answer = .row left
  buffered : ∀ name within answer left, .answered name (.hasNext within) answer left ∈ done →
    (answer = .flag true ↔ left.isSome)
  returned : ∀ name before query answer row between following given left,
    before ++ .answered name query answer (some row) :: between ++
      [.answered name following given left] <+: done →
    (∀ act ∈ between, act.empties name = false) →
    following = .next ∨ following = .nextRow → given = .row (some row) ∧ left = none

theorem Books.accounts (books : worker.Books done taken)
    (operations : done.filterMap Act.operation? ++ worker.todo = script)
    (ordered : taken.Sublist accepted) : Accounts script done worker accepted where
  operations := operations
  outcomes := books.outcomes
  slots := books.slots
  collected := books.collected
  finished _ before _ shown := (books.follows before _ shown).2
  order name := (books.order name).trans ordered
  kept name before act row shown held := by
    rw [slotAfter_snoc, held]
    exact (books.follows before act shown).keeps held
  peeked name answer left member := by
    obtain ⟨before, shown⟩ := Act.exists_prefix_of_mem member
    exact (books.follows before _ shown).peeked
  buffered name within answer left member := by
    obtain ⟨before, shown⟩ := Act.exists_prefix_of_mem member
    exact (books.follows before _ shown).buffered
  returned name before query answer row between following given left shown kept gives := by
    have follows := books.follows _ _ shown
    apply follows.returned _ gives
    have earlier := (List.prefix_append _ _).trans shown
    rw [List.append_cons] at earlier ⊢
    apply Act.slotAfter_of_kept books.follows earlier _ kept
    simp [Act.slot]

/-- A worker as a script and the replies to its requests make it. -/
structure Consumes (script : List (Operation ρ)) (replies : List (Reply ρ)) (taken : List ρ)
    (worker : Worker ρ) : Prop where
  waits : worker.Waits
  follows : worker = replies.foldl resume (start script)
  operations : (acts script replies).filterMap Act.operation? ++ worker.todo = script
  books : worker.Books (acts script replies) taken

theorem consumes_start (script : List (Operation ρ)) : Consumes script [] [] (start script) where
  waits := waits_settle _ _
  follows := rfl
  operations := by simpa [acts, actsFrom, start] using operations_settle _ script
  books := by simpa [acts, actsFrom] using books_start script

theorem Consumes.resume (consumes : Consumes script replies taken worker) {request : Request ρ}
    (asks : worker.request = some request) (reply : Reply ρ) :
    Consumes script (replies ++ [reply]) (taken ++ reply.row?.toList) (worker.resume reply) where
  waits := consumes.waits.resume reply
  follows := by rw [List.foldl_concat, ← consumes.follows]
  operations := by
    rw [acts_snoc, ← consumes.follows, List.filterMap_append, List.append_assoc,
      operations_resume]
    exact consumes.operations
  books := by
    rw [acts_snoc, ← consumes.follows]
    exact consumes.books.resume consumes.waits asks reply

end Worker

namespace System

variable {capacity : Capacity} {scripts : List (List (Operation ρ))} {events : List (Event ρ)}
variable {system : System ρ (Worker ρ)} {i : Nat}

/-- What a task has done, as the answers to its requests tell. -/
def history (scripts : List (List (Operation ρ))) (events : List (Event ρ)) (i : Nat) :
    List (Act ρ) :=
  Worker.acts (scripts.getD i []) (events.filterMap (Event.of i Event.reply?))

theorem Run.consumes
    (run : Run Worker.client (initial capacity (scripts.map Worker.start)) events system)
    {task : Task ρ (Worker ρ)} (at_i : system.tasks[i]? = some task) :
    Worker.Consumes (scripts.getD i []) (events.filterMap (Event.of i Event.reply?))
      (events.filterMap (Event.of i Event.taken?)) (task.outlook Worker.client) := by
  apply run.forall_jobs (motive := fun events _ i worker =>
    Worker.Consumes (scripts.getD i []) (events.filterMap (Event.of i Event.reply?))
      (events.filterMap (Event.of i Event.taken?)) worker) _ _ at_i
  · intro i worker listed
    rw [List.getElem?_map, Option.map_eq_some_iff] at listed
    obtain ⟨script, at_i, rfl⟩ := listed
    rw [List.getD_eq_getElem?_getD, at_i]
    exact Worker.consumes_start script
  · intro events system next i event old new run consumes turn
    cases turn with
    | others others moved =>
        rw [filterMap_of_others (fun _ => Event.completed_of_reply?) others,
          filterMap_of_others (fun _ => Event.completed_of_taken?) others]
        exact consumes
    | @answer worker request expired next signals reply asks patient served =>
        have replied : Event.of i Event.reply? (.completed i request reply) = some reply := by
          simp [Event.of, Event.task, Event.reply?]
        have taken : Event.of i Event.taken? (.completed i request reply) = reply.row? := by
          cases reply <;> simp [Event.of, Event.task, Event.taken?, Reply.row?]
        rw [Option.toList_some, filterMap_snoc, filterMap_snoc, replied, taken]
        exact consumes.resume asks reply

/-- A task's worker, as the answers to its requests make it. -/
def workerOf (scripts : List (List (Operation ρ))) (events : List (Event ρ)) (i : Nat) :
    Worker ρ :=
  (events.filterMap (Event.of i Event.reply?)).foldl Worker.resume
    (Worker.start (scripts.getD i []))

/-- The rows in the slots of all cursors, once every task has the reply that has been made to it. -/
def held (system : System ρ (Worker ρ)) : List ρ :=
  system.tasks.flatMap fun task => (task.outlook Worker.client).held

/-- What is seen of the acts of all tasks. -/
def tally (view : Act ρ → Option ρ) (scripts : List (List (Operation ρ)))
    (events : List (Event ρ)) : List ρ :=
  (List.range scripts.length).flatMap fun i => (history scripts events i).filterMap view

theorem held_eq_flatMap
    (run : Run Worker.client (initial capacity (scripts.map Worker.start)) events system)
    {n : Nat} (tasks : system.tasks.length = n) :
    system.held = (List.range n).flatMap fun i => (workerOf scripts events i).held := by
  rw [held, List.flatMap_def, List.flatMap_def]
  congr 1
  apply List.ext_getElem
  · simp [tasks]
  · intro i inTasks inRange
    rw [List.length_map] at inTasks
    have consumes := run.consumes (List.getElem?_eq_getElem inTasks)
    rw [List.getElem_map, List.getElem_map, List.getElem_range, workerOf, ← consumes.follows]

/-- The rows that have been taken, shared out to where the tasks that took them have put them. -/
theorem Run.taken_perm
    (run : Run Worker.client (initial capacity (scripts.map Worker.start)) events system) :
    (events.filterMap Event.taken?).Perm
      (tally Act.row? scripts events ++ system.held ++ tally Act.lost? scripts events) := by
  have tasks : system.tasks.length = scripts.length := by
    simpa [initial] using run.length_tasks
  have inRange (shown : Event ρ) (member : shown ∈ events) : shown.task < scripts.length := by
    simpa [initial] using run.task_lt member
  have own (i : Nat) (listed : i ∈ List.range scripts.length) :
      (events.filterMap (Event.of i Event.taken?)).Perm
        ((history scripts events i).filterMap Act.row? ++ (workerOf scripts events i).held ++
          (history scripts events i).filterMap Act.lost?) := by
    have inTasks : i < system.tasks.length := tasks ▸ List.mem_range.mp listed
    have consumes := run.consumes (List.getElem?_eq_getElem inTasks)
    have rows := consumes.books.rows
    rwa [consumes.follows] at rows
  -- The rows are sorted by the tasks that took them, and then by where those have put them.
  have byTask := (filterMap_perm_of_tasks Event.taken? inRange).trans
    (List.Perm.flatMap_left _ own)
  have apart := List.flatMap_append_perm (List.range scripts.length)
    (fun i => (history scripts events i).filterMap Act.row?)
    (fun i => (workerOf scripts events i).held)
  rw [held_eq_flatMap run tasks]
  exact byTask.trans (((apart.append_right _).trans (List.flatMap_append_perm _ _ _)).symm)

/-- Every row that the channel has accepted has been handed on, waits in the slot of a cursor, was
there when the cursor went, or is still queued, and each just once. -/
theorem cursors_keep_rows
    (run : Run Worker.client (initial capacity (scripts.map Worker.start)) events system) :
    (tally Act.row? scripts events ++ system.held ++ tally Act.lost? scripts events ++
        system.channel.queue).Perm (events.filterMap Event.accepted?) ∧
      ∀ i task, system.tasks[i]? = some task →
        Worker.Accounts (scripts.getD i []) (history scripts events i)
          (task.outlook Worker.client) (events.filterMap Event.accepted?) := by
  constructor
  · rw [← run.ordered]
    exact run.taken_perm.symm.append_right _
  · intro i task at_i
    have consumes := run.consumes at_i
    apply consumes.books.accounts consumes.operations
    rw [← run.ordered]
    exact (filterMap_of_sublist i Event.taken? events).trans (List.sublist_append_left _ _)

/-! Two rows that are looked at before a cancellation. One is handed out after it, and the other
goes with its cursor. -/

def peeking : List (List (Operation Nat)) :=
  [[.ask (.put 1 none), .ask (.put 2 none)],
    [.openCursor "a", .openCursor "b", .query "a" .peek, .query "b" (.hasNext none), .ask .cancel,
      .query "a" .next, .dropCursor "b"]]

def peekingMoves : List Move :=
  List.replicate 8 (.advance 0 none) ++ List.replicate 13 (.advance 1 none)

theorem cursors_keep_rows_over_cancel :
    ∃ events system,
      Run Worker.client (initial (.ofNat 2) (peeking.map Worker.start)) events system ∧
      system.channel.cancelled = true ∧
      history peeking events 1 =
        [.opened "a" none, .opened "b" none, .answered "a" .peek (.row (some 1)) (some 1),
          .answered "b" (.hasNext none) (.flag true) (some 2), .asked .cancel .done,
          .answered "a" .next (.row (some 1)) none, .dropped "b" true (some 2)] ∧
      (tally Act.row? peeking events ++ system.held ++ tally Act.lost? peeking events ++
        system.channel.queue).Perm [1, 2] := by
  have run := Run.start.play (rfl : (initial (.ofNat 2) (peeking.map Worker.start)).play
    Worker.client peekingMoves = some (_, _))
  exact ⟨_, _, run, rfl, rfl, (cursors_keep_rows run).1⟩

end System

end BindStream
