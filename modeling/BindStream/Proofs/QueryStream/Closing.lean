import BindStream.Proofs.Channel.Job
import BindStream.Proofs.Channel.Wakeup
import BindStream.QueryStream.Basic

namespace BindStream

/-! The end of a producer ends its stream, unless the producer panics. -/

namespace Producer

/-- The life of a producer; `closed` says that it has cancelled the channel. -/
inductive Stage : Producer → (closed : Bool) → Prop
  | executing (actions : List Action) : Stage (executing actions) false
  | closing {ending : Ending} (returned : ending ≠ .panicked) : Stage (closing ending) false
  | ended {ending : Ending} {closed : Bool} (returned : closed = true ↔ ending ≠ .panicked) :
      Stage (ended ending) closed

theorem request_executing_ne_cancel (actions : List Action) :
    (executing actions).request ≠ some .cancel := by
  rcases actions with _ | ⟨action, rest⟩
  · rintro ⟨⟩
  · cases action <;> rintro ⟨⟩

theorem stage_start (actions : List Action) : Stage (start actions) false := by
  unfold start
  split
  · exact .closing (by rintro ⟨⟩)
  · exact .closing (by rintro ⟨⟩)
  · exact .ended (by simp)
  · exact .executing actions

theorem stage_resume (actions : List Action) (reply : Reply Row) :
    Stage ((executing actions).resume reply) false := by
  have closes (error : ExecuteError) : Stage (closing (.failed error)) false :=
    .closing (by rintro ⟨⟩)
  rcases actions with _ | ⟨action, rest⟩
  · exact .closing (by rintro ⟨⟩)
  · cases action with
    | push row =>
        cases reply with
        | refused row cause => exact closes _
        | _ => exact stage_start rest
    | offer row => exact stage_start rest
    | pushFrom n =>
        cases reply with
        | refused row cause => exact closes _
        | _ => exact .executing _
    | pushCancelled =>
        cases reply with
        | status size cancelled => exact .executing _
        | _ => exact stage_start rest
    | awaitCancel message =>
        cases reply with
        | status size cancelled =>
            cases cancelled with
            | true => exact closes _
            | false => exact .executing _
        | _ => exact .executing _
    | fail error => exact closes error
    | panic => exact .ended (by simp)

end Producer

/-- A producer among tasks has cancelled the channel exactly if it is past that. -/
def StreamTask.Closes (events : List (Event Row)) (i : Nat) (job : StreamTask) : Prop :=
  ∃ producer closed, job = .producer producer ∧ producer.Stage closed ∧
    (closed = true ↔ .completed i .cancel .done ∈ events)

theorem StreamTask.Closes.turn {events : List (Event Row)} {channel next : Channel Row} {i : Nat}
    {event : Option (Event Row)} {old new : StreamTask} (closes : old.Closes events i)
    (turn : Task.Turn StreamTask.client channel i event next old new) :
    new.Closes (events ++ event.toList) i := by
  obtain ⟨producer, closed, rfl, stage, told⟩ := closes
  have quiet (other : .completed i .cancel .done ∉ event) :
      closed = true ↔ .completed i .cancel .done ∈ events ++ event.toList := by
    rw [told, List.mem_append, Option.mem_toList]
    exact (or_iff_left other).symm
  cases turn with
  | others others moved =>
      exact ⟨producer, closed, rfl, stage, quiet fun shown => others _ shown _ _ rfl⟩
  | @answer _ request _ _ _ reply asks patient served =>
      cases stage with
      | executing actions =>
          refine ⟨_, _, rfl, Producer.stage_resume actions reply, quiet ?_⟩
          rintro ⟨⟩
          exact Producer.request_executing_ne_cancel actions asks
      | closing returned =>
          cases asks
          refine ⟨_, _, rfl, .ended (iff_of_true rfl returned), iff_of_true rfl ?_⟩
          rw [served.reply_of_cancel]
          exact List.mem_append_right _ List.mem_cons_self
      | ended returned => cases asks

namespace QueryStream

/-- A stream's system once its consumer has been given some operations. -/
def asked (stream : QueryStream) (operations : List (Operation Row)) : System Row StreamTask :=
  stream.system.setTask 0 (.start (.consumer (stream.consumer.assign operations)))

theorem asked_start (capacity : Capacity) (actions : List Action)
    (operations : List (Operation Row)) :
    (start capacity actions).asked operations =
      .initial capacity [.consumer (.start operations), .producer (.start actions)] := rfl

variable {capacity : Nat} {actions : List Action} {operations : List (Operation Row)}
variable {events : List (Event Row)} {system : System Row StreamTask}

theorem closes
    (run : System.Run StreamTask.client ((start (.ofNat capacity) actions).asked operations)
      events system) {task : Task Row StreamTask} (at_1 : system.tasks[1]? = some task) :
    (task.outlook StreamTask.client).Closes events 1 := by
  rw [asked_start] at run
  refine run.forall_jobs (motive := fun events _ i job => i = 1 → job.Closes events i)
    ?_ ?_ at_1 rfl
  · rintro i job at_i rfl
    cases at_i
    exact ⟨_, false, rfl, Producer.stage_start actions, by simp⟩
  · rintro events system next i event old new - before turn rfl
    exact (before rfl).turn turn

theorem ending?_eq_some {ending : Ending} (ended : (QueryStream.mk system).ending? = some ending) :
    ∃ phase, system.tasks[1]? = some ⟨.producer (.ended ending), phase⟩ := by
  unfold ending? job? at ended
  cases at_1 : system.tasks[1]? with
  | none =>
      rw [at_1] at ended
      cases ended
  | some task =>
      obtain ⟨job, phase⟩ := task
      rw [at_1] at ended
      cases job with
      | consumer worker => cases ended
      | producer state =>
          cases state with
          | ended ending =>
              cases ended
              exact ⟨phase, rfl⟩
          | _ => cases ended

theorem not_asleep_of_ended
    (run : System.Run StreamTask.client ((start (.ofNat capacity) actions).asked operations)
      events system) (closed : system.channel.cancelled = true) {job : StreamTask}
    (at_1 : system.tasks[1]? = some ⟨job, .ready⟩) {task : Task Row StreamTask}
    (member : task ∈ system.tasks) (call : Call Row) (condition : Condition) :
    task.phase ≠ .asleep call condition := by
  intro asleep
  rw [asked_start] at run
  have sleeping : system.tasks.any (·.sleepsOn condition) = true := by
    refine List.any_eq_true.mpr ⟨task, member, ?_⟩
    rw [Task.sleepsOn, asleep]
    exact beq_self_eq_true condition
  have owed := (run.announced condition).ending sleeping
  rw [closed] at owed
  obtain ⟨other, listed, owes⟩ := List.countP_pos_iff.mp owed
  -- Of the two tasks one is done, and the other does not both sleep and send signals.
  have first {task : Task Row StreamTask} (member : task ∈ system.tasks)
      (busy : task.phase ≠ .ready) : system.tasks[0]? = some task := by
    obtain ⟨i, at_i⟩ := List.getElem?_of_mem member
    obtain ⟨inRange, -⟩ := List.getElem?_eq_some_iff.mp at_i
    rw [run.length_tasks] at inRange
    have which : i = 0 ∨ i = 1 := Nat.le_one_iff_eq_zero_or_eq_one.mp (Nat.le_of_lt_succ inRange)
    rcases which with rfl | rfl
    · exact at_i
    · cases at_i.symm.trans at_1
      exact absurd rfl busy
  have same := first member (by rw [asleep]; rintro ⟨⟩)
  have busy : other.phase ≠ .ready := by
    intro idle
    rw [Task.owes, idle] at owes
    cases owes
  cases same.symm.trans (first listed busy)
  rw [Task.owes, asleep] at owes
  cases owes

/-- A stream whose producer has ended is cancelled, unless the producer has panicked and no other
task has cancelled it. If the producer has returned, no one waits for a row any more. -/
theorem ended_producer_has_closed
    (run : System.Run StreamTask.client ((start (.ofNat capacity) actions).asked operations)
      events system) {ending : Ending} (ended : (QueryStream.mk system).ending? = some ending) :
    (system.channel.cancelled = true ↔
      ending ≠ .panicked ∨ ∃ i ≠ 1, .completed i .cancel .done ∈ events) ∧
    (ending ≠ .panicked →
      ∀ task ∈ system.tasks, ∀ call condition, task.phase ≠ .asleep call condition) := by
  obtain ⟨phase, at_1⟩ := ending?_eq_some ended
  have closes := closes run at_1
  have cancelled_iff := System.Run.cancelled_iff (asked_start _ actions operations ▸ run)
  have asks := System.Run.asks (asked_start _ actions operations ▸ run) at_1
  cases asks.ready rfl
  obtain ⟨_, closed, ⟨⟩, stage, told⟩ := closes
  cases stage with
  | ended returned =>
      refine ⟨cancelled_iff.trans ⟨?_, ?_⟩, fun normal task member => ?_⟩
      · rintro ⟨i, shown⟩
        by_cases own : i = 1
        · subst own
          exact .inl (returned.mp (told.mpr shown))
        · exact .inr ⟨i, own, shown⟩
      · rintro (normal | ⟨i, -, shown⟩)
        · exact ⟨1, told.mp (returned.mpr normal)⟩
        · exact ⟨i, shown⟩
      · have closed := cancelled_iff.mpr ⟨1, told.mp (returned.mpr normal)⟩
        exact not_asleep_of_ended run closed at_1 member

/-! An executor that fails behind a row, and one that panics there. Two rows are asked for, and
the second request has to wait. -/

def twoRows : List (Operation Row) :=
  [.query cursorName .next, .query cursorName .next]

def oneRowTaken : List Move :=
  [.advance 1 none, .advance 1 none, .advance 1 none, .advance 1 none,
    .advance 0 none, .advance 0 none, .advance 0 none, .advance 0 none,
    .advance 0 none, .advance 0 none]

theorem failed_producer_has_closed :
    ∃ events system, System.Run StreamTask.client
        ((start (.ofNat 1) [.push (.ofNat 0), .fail (.driver "reset")]).asked twoRows)
        events system ∧
      (QueryStream.mk system).ending? = some (.failed (.driver "reset")) ∧
      system.channel.cancelled = true := by
  have run := System.Run.start.play
    (rfl : System.play StreamTask.client
      ((start (.ofNat 1) [.push (.ofNat 0), .fail (.driver "reset")]).asked twoRows)
      (oneRowTaken ++ [.advance 1 none, .advance 1 none, .advance 1 (some 0),
        .advance 1 none, .advance 1 none]) = some (_, _))
  exact ⟨_, _, run, rfl, (ended_producer_has_closed run rfl).1.mpr (.inl (by rintro ⟨⟩))⟩

/-- A panic leaves the channel open and the consumer asleep, with no task left to wake it. -/
theorem panicked_producer_leaves_open :
    ∃ events system, System.Run StreamTask.client
        ((start (.ofNat 1) [.push (.ofNat 0), .panic]).asked twoRows) events system ∧
      (QueryStream.mk system).ending? = some .panicked ∧
      system.channel.cancelled = false ∧ system.channel.queue = [] ∧
      (∃ worker, system.tasks[0]? =
        some ⟨.consumer worker, .asleep ⟨.take none, none⟩ .notEmpty⟩) ∧
      ∀ i sleeper, system.advance StreamTask.client i sleeper = none := by
  have run := System.Run.start.play
    (rfl : System.play StreamTask.client
      ((start (.ofNat 1) [.push (.ofNat 0), .panic]).asked twoRows)
      oneRowTaken = some (_, _))
  refine ⟨_, _, run, rfl, rfl, rfl, ⟨_, rfl⟩, fun i sleeper => ?_⟩
  match i with
  | 0 => rfl
  | 1 => rfl
  | _ + 2 => rfl

end QueryStream

end BindStream
