import BindStream.Proofs.Channel.Order
import BindStream.Proofs.Pump.Reader

namespace BindStream

/-! The writer of a pump writes what it takes, and stops at its limit or when all lines are
written. -/

/-- What is written for some lines. -/
def written (lines : List String) : String := String.join (lines.map (· ++ "\n"))

theorem written_snoc (lines : List String) (line : String) :
    written (lines ++ [line]) = written lines ++ (line ++ "\n") := by
  simp [written]

namespace Writer

/-- Why a writer that has taken some lines may stop. -/
def Halts (lines : List String) (limit : Option Nat) (taken : List String) : Stop → Prop
  | .ranDry => taken = lines ∧ limit.all (taken.length < ·) = true
  | .limitReached => limit = some taken.length
  | .outputFull => False

/-- Where a writer is; `closed` says that it has cancelled the channel. -/
inductive At (lines : List String) (limit : Option Nat) (taken : List String) :
    (closed : Bool) → Stage → Prop
  | draining (hungry : limit.all (taken.length < ·) = true) : At lines limit taken false .draining
  | closing {stop : Stop} (halts : Halts lines limit taken stop) :
      At lines limit taken false (.closing stop)
  | ended {stop : Stop} (halts : Halts lines limit taken stop) :
      At lines limit taken true (.ended stop)

/-- A writer to an output without bound, with the lines that it has taken. -/
structure Writes (lines : List String) (text : String) (limit : Option Nat)
    (taken : List String) (closed : Bool) (writer : Writer) : Prop where
  bound : writer.limit = limit
  consumed : writer.consumed = taken.length
  output : writer.output = ⟨text ++ written taken, none⟩
  stage : At lines limit taken closed writer.stage

/-- The calls of a writer but for those that have brought it a line, or a bound on them. -/
def Stage.calls : Stage → Nat
  | draining => 0
  | closing _ => 1
  | ended _ => 2

variable {lines taken : List String} {text : String} {limit : Option Nat} {closed : Bool}
variable {writer : Writer}

theorem writes_next (within : limit.all (taken.length ≤ ·) = true) :
    Writes lines text limit taken false
      (next limit taken.length ⟨text ++ written taken, none⟩) := by
  refine ⟨rfl, rfl, rfl, ?_⟩
  unfold next
  by_cases hungry : limit.all (taken.length < ·) = true
  · simp only [hungry, if_true]
    exact .draining hungry
  · simp only [hungry]
    apply At.closing
    cases limit with
    | none => exact absurd rfl hungry
    | some most =>
        simp only [Option.all_some, decide_eq_true_eq] at within hungry
        show some most = some taken.length
        rw [Nat.le_antisymm within (Nat.le_of_not_lt hungry)]

theorem Writes.resume {channel next : Channel String} {request : Request String} {expired : Bool}
    {signals : List Signal} {reply : Reply String}
    (writes : Writes lines text limit taken closed writer)
    (dry : closed = false → channel.cancelled = true → channel.queue = [] → taken = lines)
    (asks : writer.request = some request) (patient : expired = true → request.within? ≠ none)
    (served : channel.Served expired request next signals reply) (i : Nat) :
    (Event.completed i request reply).accepted? = none ∧ closed = false ∧
      Writes lines text limit (taken ++ (Event.completed i request reply).taken?.toList)
        (request == .cancel) (writer.resume reply) ∧
      1 + writer.stage.calls ≤ (Event.completed i request reply).taken?.toList.length +
        (writer.resume reply).stage.calls := by
  obtain ⟨bound, count, output, stage⟩ := writer
  obtain ⟨rfl, rfl, rfl, at_stage⟩ := writes
  cases at_stage with
  | draining hungry =>
      cases asks
      cases served with
      | @taken _ line queue takes oldest =>
          have within : bound.all ((taken ++ [line]).length ≤ ·) = true := by
            rw [List.length_append]
            exact hungry
          have writes : Writes lines text bound (taken ++ [line]) false (next bound _ _) :=
            writes_next within
          rw [written_snoc, ← String.append_assoc, List.length_append] at writes
          exact ⟨rfl, rfl, writes, Nat.le_add_right 1 _⟩
      | takeCancelled takes empty shut =>
          have kept : taken ++ (Event.completed i (.take none) (.failed .cancelled)).taken?.toList =
              taken := List.append_nil _
          refine ⟨rfl, rfl, ?_, Nat.le_refl _⟩
          rw [kept]
          exact ⟨rfl, rfl, rfl, .closing ⟨dry rfl shut empty, hungry⟩⟩
      | takeTimedOut empty opened elapsed => exact absurd rfl (patient elapsed)
  | closing halts =>
      cases asks
      cases served.reply_of_cancel
      refine ⟨rfl, rfl, ?_, Nat.le_refl _⟩
      have kept : taken ++ (Event.completed i .cancel .done).taken?.toList = taken :=
        List.append_nil _
      rw [kept]
      exact ⟨rfl, rfl, rfl, .ended halts⟩
  | ended halts => cases asks

end Writer

namespace Pump

/-- The writer of a pump, as the answers to its requests make it. -/
structure Writes (lines : List String) (text : String) (limit : Option Nat)
    (events : List (Event String)) (closed : Bool) (writer : Writer) : Prop where
  writes : writer.Writes lines text limit (events.filterMap (Event.of 0 Event.taken?)) closed
  tells : Tells 0 Event.accepted? events closed
  calls : (events.filterMap (Event.of 0 Event.reply?)).length ≤
    (events.filterMap (Event.of 0 Event.taken?)).length + writer.stage.calls

variable {lines : List String} {text : String} {limit : Option Nat} {closed : Bool}
variable {events : List (Event String)} {writer : Writer} {event : Option (Event String)}
variable {channel next : Channel String} {request : Request String} {expired : Bool}
variable {signals : List Signal} {reply : Reply String} {failure : Option DeviceError}
variable {capacity : Capacity} {system : System String PumpTask}

theorem Writes.others (writes : Writes lines text limit events closed writer)
    (others : ∀ shown ∈ event, ∀ request reply, shown ≠ .completed 0 request reply) :
    Writes lines text limit (events ++ event.toList) closed writer := by
  have taken : (events ++ event.toList).filterMap (Event.of 0 Event.taken?) =
      events.filterMap (Event.of 0 Event.taken?) :=
    filterMap_of_others (fun _ => Event.completed_of_taken?) others
  refine ⟨?_, writes.tells.others others, ?_⟩
  · rw [taken]
    exact writes.writes
  · rw [taken, filterMap_of_others (fun _ => Event.completed_of_reply?) others]
    exact writes.calls

theorem Writes.answer (writes : Writes lines text limit events closed writer)
    (dry : closed = false → channel.cancelled = true → channel.queue = [] →
      events.filterMap (Event.of 0 Event.taken?) = lines)
    (asks : writer.request = some request) (patient : expired = true → request.within? ≠ none)
    (served : channel.Served expired request next signals reply) :
    Writes lines text limit (events ++ [.completed 0 request reply]) (request == .cancel)
      (writer.resume reply) := by
  obtain ⟨own, opened, resumed, calls⟩ := writes.writes.resume dry asks patient served 0
  have taken : (events ++ [Event.completed 0 request reply]).filterMap
      (Event.of 0 Event.taken?) = events.filterMap (Event.of 0 Event.taken?) ++
        (Event.completed 0 request reply).taken?.toList := filterMap_snoc _ _ _
  refine ⟨?_, writes.tells.answer opened served own, ?_⟩
  · rw [taken]
    exact resumed
  · have bound := writes.calls
    rw [taken, length_replies_snoc, List.length_append]
    omega

theorem exists_reader (run : System.Run PumpTask.client
      (start lines failure ⟨text, none⟩ capacity limit).system events system) :
    ∃ task reader closed, system.tasks[1]? = some task ∧
      task.outlook PumpTask.client = .reader reader ∧ Reads lines failure events closed reader := by
  have inRange : 1 < system.tasks.length := by
    rw [run.length_tasks]
    exact Nat.one_lt_two
  have at_1 := List.getElem?_eq_getElem inRange
  obtain ⟨reader, closed, outlook, reads⟩ := reads run at_1
  exact ⟨_, reader, closed, at_1, outlook, reads⟩

/-- A writer that finds the channel cancelled and empty has been given all lines. -/
theorem Writes.dry (run : System.Run PumpTask.client
      (start lines failure ⟨text, none⟩ capacity limit).system events system)
    (writes : Writes lines text limit events false writer)
    (shut : system.channel.cancelled = true) (empty : system.channel.queue = []) :
    events.filterMap (Event.of 0 Event.taken?) = lines := by
  obtain ⟨task, reader, closed, at_1, outlook, reads⟩ := exists_reader run
  have steady : .completed 0 .cancel .done ∉ events := fun shown => by
    cases writes.tells.told.mpr shown
  have first : closed = true := by
    obtain ⟨i, shown⟩ := run.cancelled_iff.mp shut
    have bound : i < 2 := run.task_lt shown
    have which : i = 0 ∨ i = 1 := by omega
    rcases which with rfl | rfl
    · exact absurd shown steady
    · exact reads.tells.told.mpr shown
  subst first
  have ordered := run.ordered_of_two writes.tells.unseen reads.tells.unseen
  rw [empty, List.append_nil] at ordered
  exact ordered.trans (reads.feeds.complete steady).1

theorem writes (run : System.Run PumpTask.client
      (start lines failure ⟨text, none⟩ capacity limit).system events system)
    {task : Task String PumpTask} (at_0 : system.tasks[0]? = some task) :
    ∃ writer closed, task.outlook PumpTask.client = .writer writer ∧
      Writes lines text limit events closed writer := by
  refine run.forall_jobs (motive := fun events _ i job => i = 0 →
    ∃ writer closed, job = .writer writer ∧ Writes lines text limit events closed writer)
    ?_ ?_ at_0 rfl
  · rintro i job at_i rfl
    cases at_i
    have within : limit.all (([] : List String).length ≤ ·) = true := by
      cases limit <;> simp
    have writes : Writer.Writes lines text limit [] false (.next limit 0 _) :=
      Writer.writes_next within
    rw [show text ++ written [] = text from String.append_empty] at writes
    exact ⟨_, false, rfl, writes, tells_start _ _, Nat.zero_le _⟩
  · rintro events system next i event old new run before turn rfl
    obtain ⟨writer, closed, rfl, writes⟩ := before rfl
    cases turn with
    | others others moved => exact ⟨writer, closed, rfl, writes.others others⟩
    | answer asks patient served =>
        refine ⟨_, _, rfl, writes.answer (fun opened shut empty => ?_) asks patient served⟩
        subst opened
        exact writes.dry run shut empty

end Pump

end BindStream
