import BindStream.Proofs.Channel.Cancellation
import BindStream.Proofs.Channel.Job
import BindStream.Tool.Pump

namespace BindStream

/-! The reader of a pump puts its lines in order, and leaves some out only if the writer has
cancelled. -/

namespace Reader

/-- A reader with the lines that it has put. `stopped` says that the writer has cancelled the
channel, and `closed` that the reader has. -/
inductive Feeds (lines : List String) (failure : Option DeviceError) (stopped : Prop) :
    (accepted : List String) → (closed : Bool) → Reader → Prop
  | reading {accepted rest : List String} {line : String}
      (split : lines = accepted ++ line :: rest) :
      Feeds lines failure stopped accepted false
        (reading line rest failure (accepted.length + 1))
  | closing : Feeds lines failure stopped lines false (closing failure lines.length)
  | ended : Feeds lines failure stopped lines true (ended failure lines.length)
  | refused {accepted rest : List String} {line : String}
      (split : lines = accepted ++ line :: rest) (told : stopped) (produced : Nat) :
      Feeds lines failure stopped accepted false (.closing none produced)
  | left {accepted rest : List String} {line : String}
      (split : lines = accepted ++ line :: rest) (told : stopped) (produced : Nat) :
      Feeds lines failure stopped accepted true (.ended none produced)

/-- A bound on the calls that a reader still makes. -/
def calls : Reader → Nat
  | reading _ rest _ _ => rest.length + 2
  | closing _ _ => 1
  | ended _ _ => 0

variable {lines accepted rest : List String} {failure : Option DeviceError} {stopped later : Prop}
variable {closed : Bool} {reader : Reader}

theorem feeds_start (split : lines = accepted ++ rest) :
    Feeds lines failure stopped accepted false (start rest failure accepted.length) := by
  cases rest with
  | nil =>
      rw [List.append_nil] at split
      subst split
      exact .closing
  | cons line rest => exact .reading split

theorem Feeds.mono (feeds : Feeds lines failure stopped accepted closed reader)
    (since : stopped → later) : Feeds lines failure later accepted closed reader := by
  cases feeds with
  | reading split => exact .reading split
  | closing => exact .closing
  | ended => exact .ended
  | refused split told produced => exact .refused split (since told) produced
  | left split told produced => exact .left split (since told) produced

theorem Feeds.of_lines (feeds : Feeds lines failure stopped accepted closed reader) :
    accepted <+: lines := by
  cases feeds with
  | closing | ended => exact List.prefix_rfl
  | reading split | refused split | left split => exact ⟨_, split.symm⟩

/-- A reader that ends before the writer has put all of its lines. -/
theorem Feeds.complete (feeds : Feeds lines failure stopped accepted true reader)
    (steady : ¬stopped) : accepted = lines ∧ reader = .ended failure lines.length := by
  cases feeds with
  | ended => exact ⟨rfl, rfl⟩
  | left split told => exact absurd told steady

theorem calls_start (rest : List String) (failure : Option DeviceError) (produced : Nat) :
    (start rest failure produced).calls = rest.length + 1 := by
  cases rest <;> rfl

theorem calls_resume {request : Request String} (asks : reader.request = some request)
    (reply : Reply String) : (reader.resume reply).calls + 1 ≤ reader.calls := by
  cases reader with
  | reading line rest failure produced =>
      cases reply with
      | refused row cause => simp [resume, calls]
      | _ =>
          exact Nat.succ_le_succ (Nat.le_of_eq (calls_start rest failure produced))
  | closing failure produced => exact Nat.le_refl _
  | ended failure produced => cases asks

/-- A line is put, or refused by a channel that the writer has cancelled. -/
theorem Feeds.resume {channel next : Channel String} {request : Request String} {expired : Bool}
    {signals : List Signal} {reply : Reply String}
    (feeds : Feeds lines failure stopped accepted closed reader)
    (cancels : channel.cancelled = true → closed = true ∨ stopped)
    (asks : reader.request = some request) (patient : expired = true → request.within? ≠ none)
    (served : channel.Served expired request next signals reply) (i : Nat) :
    (Event.completed i request reply).taken? = none ∧ closed = false ∧
      Feeds lines failure stopped
        (accepted ++ (Event.completed i request reply).accepted?.toList)
        (request == .cancel) (reader.resume reply) := by
  cases feeds with
  | @reading _ rest line split =>
      cases asks
      cases served with
      | stored opened room =>
          have further : lines = (accepted ++ [line]) ++ rest := by simpa using split
          have starts : Feeds lines failure stopped (accepted ++ [line]) false
              (start rest failure (accepted ++ [line]).length) := feeds_start further
          rw [List.length_append] at starts
          exact ⟨rfl, rfl, starts⟩
      | putCancelled shut =>
          have kept : accepted ++ (Event.completed i (.put line none)
              (.refused line .cancelled)).accepted?.toList = accepted := List.append_nil _
          refine ⟨rfl, rfl, ?_⟩
          rw [kept]
          exact .refused split ((cancels shut).resolve_left Bool.false_ne_true) _
      | putTimedOut opened full elapsed => exact absurd rfl (patient elapsed)
      | taken takes | takeCancelled takes => cases takes
  | closing =>
      cases asks
      cases served.reply_of_cancel
      have kept : lines ++ (Event.completed i .cancel .done).accepted?.toList = lines :=
        List.append_nil _
      refine ⟨rfl, rfl, ?_⟩
      rw [kept]
      exact .ended
  | refused split told produced =>
      cases asks
      cases served.reply_of_cancel
      have kept : accepted ++ (Event.completed i .cancel .done).accepted?.toList = accepted :=
        List.append_nil _
      refine ⟨rfl, rfl, ?_⟩
      rw [kept]
      exact .left split told produced
  | ended | left => cases asks

end Reader

namespace Pump

/-- The answers that a task has been given: nothing that `view` sees, and the answer to a
cancellation only if the task has closed the channel. -/
structure Tells (i : Nat) (view : Event String → Option String) (events : List (Event String))
    (closed : Bool) : Prop where
  told : closed = true ↔ .completed i .cancel .done ∈ events
  unseen : ∀ request reply, .completed i request reply ∈ events →
    view (.completed i request reply) = none

variable {i : Nat} {view : Event String → Option String} {events : List (Event String)}
variable {closed : Bool} {event : Option (Event String)} {channel next : Channel String}
variable {request : Request String} {expired : Bool} {signals : List Signal}
variable {reply : Reply String} {lines : List String} {failure : Option DeviceError}
variable {reader : Reader}

theorem tells_start (i : Nat) (view : Event String → Option String) : Tells i view [] false :=
  ⟨by simp, by simp⟩

theorem Tells.others (tells : Tells i view events closed)
    (others : ∀ shown ∈ event, ∀ request reply, shown ≠ .completed i request reply) :
    Tells i view (events ++ event.toList) closed where
  told := by
    rw [tells.told]
    exact ⟨List.mem_append_left _, mem_of_others others⟩
  unseen request reply shown := tells.unseen request reply (mem_of_others others shown)

theorem Tells.answer (tells : Tells i view events closed) (opened : closed = false)
    (served : channel.Served expired request next signals reply)
    (own : view (.completed i request reply) = none) :
    Tells i view (events ++ [.completed i request reply]) (request == .cancel) where
  told := by
    have before : .completed i .cancel .done ∉ events := fun shown => by
      cases opened.symm.trans (tells.told.mpr shown)
    rw [mem_completed_snoc, beq_iff_eq]
    constructor
    · rintro rfl
      exact .inr ⟨rfl, served.reply_of_cancel.symm⟩
    · rintro (shown | ⟨rfl, -⟩)
      · exact absurd shown before
      · rfl
  unseen asked given shown := by
    rcases mem_completed_snoc.mp shown with before | ⟨rfl, rfl⟩
    · exact tells.unseen asked given before
    · exact own

/-- The reader of a pump, as the answers to its requests make it. -/
structure Reads (lines : List String) (failure : Option DeviceError)
    (events : List (Event String)) (closed : Bool) (reader : Reader) : Prop where
  feeds : reader.Feeds lines failure (.completed 0 .cancel .done ∈ events)
    (events.filterMap (Event.of 1 Event.accepted?)) closed
  tells : Tells 1 Event.taken? events closed
  calls : (events.filterMap (Event.of 1 Event.reply?)).length + reader.calls ≤ lines.length + 1

theorem Reads.others (reads : Reads lines failure events closed reader)
    (others : ∀ shown ∈ event, ∀ request reply, shown ≠ .completed 1 request reply) :
    Reads lines failure (events ++ event.toList) closed reader where
  feeds := by
    rw [filterMap_of_others (fun _ => Event.completed_of_accepted?) others]
    exact reads.feeds.mono (List.mem_append_left _)
  tells := reads.tells.others others
  calls := by
    rw [filterMap_of_others (fun _ => Event.completed_of_reply?) others]
    exact reads.calls

theorem Reads.answer (reads : Reads lines failure events closed reader)
    (cancels : channel.cancelled = true → closed = true ∨ .completed 0 .cancel .done ∈ events)
    (asks : reader.request = some request) (patient : expired = true → request.within? ≠ none)
    (served : channel.Served expired request next signals reply) :
    Reads lines failure (events ++ [.completed 1 request reply]) (request == .cancel)
      (reader.resume reply) := by
  obtain ⟨own, opened, feeds⟩ := reads.feeds.resume cancels asks patient served 1
  refine ⟨?_, reads.tells.answer opened served own, ?_⟩
  · rw [filterMap_snoc]
    exact feeds.mono (List.mem_append_left _)
  · have fewer := Reader.calls_resume asks reply
    have bound := reads.calls
    rw [length_replies_snoc]
    omega

variable {capacity : Capacity} {limit : Option Nat} {output : Output}
variable {system : System String PumpTask}

theorem reads (run : System.Run PumpTask.client
      (start lines failure output capacity limit).system events system)
    {task : Task String PumpTask} (at_1 : system.tasks[1]? = some task) :
    ∃ reader closed, task.outlook PumpTask.client = .reader reader ∧
      Reads lines failure events closed reader := by
  refine run.forall_jobs (motive := fun events _ i job => i = 1 →
    ∃ reader closed, job = .reader reader ∧ Reads lines failure events closed reader) ?_ ?_ at_1 rfl
  · rintro i job at_i rfl
    cases at_i
    refine ⟨_, false, rfl, Reader.feeds_start rfl, tells_start _ _, ?_⟩
    simp [Reader.calls_start]
  · rintro events system next i event old new run before turn rfl
    obtain ⟨reader, closed, rfl, reads⟩ := before rfl
    cases turn with
    | others others moved => exact ⟨reader, closed, rfl, reads.others others⟩
    | answer asks patient served =>
        refine ⟨_, _, rfl, reads.answer (fun shut => ?_) asks patient served⟩
        obtain ⟨i, shown⟩ := run.cancelled_iff.mp shut
        have inRange : i < 2 := run.task_lt shown
        have which : i = 0 ∨ i = 1 := by omega
        rcases which with rfl | rfl
        · exact .inr shown
        · exact .inl (reads.tells.told.mpr shown)

end Pump

end BindStream
