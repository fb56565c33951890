import BindStream.Proofs.Channel.Draining
import BindStream.Proofs.Channel.Order
import Mathlib.Data.List.Duplicate

namespace BindStream

/-! Every row that a put has been given is in one place only: a take has it, or the queue, or the
put has handed it back, or is still under way with it. -/

variable {ρ σ : Type}

namespace Event

/-- The row of a put that has been answered. -/
def settled? : Event ρ → Option ρ
  | completed _ (.put row _) _ => some row
  | _ => none

def handedBack? : Event ρ → Option ρ
  | completed _ _ (.refused row _) => some row
  | _ => none

end Event

namespace Channel

variable {channel next : Channel ρ} {expired : Bool} {request : Request ρ}
variable {signals : List Signal} {reply : Reply ρ}

/-- A put that is answered has stored its row or hands it back. -/
theorem Served.settled? (served : channel.Served expired request next signals reply) (i : Nat) :
    (Event.completed i request reply).settled?.toList =
      (Event.completed i request reply).accepted?.toList ++
        (Event.completed i request reply).handedBack?.toList := by
  cases served with
  | taken takes | takeCancelled takes => cases request <;> first | rfl | cases takes
  | _ => rfl

end Channel

theorem settled?_eq_row? (i : Nat) (request : Request ρ) (reply : Reply ρ) :
    (Event.completed i request reply).settled? = request.row? := by
  cases request <;> rfl

theorem offered?_eq_row? (i : Nat) (request : Request ρ) :
    (Event.called i request).offered? = request.row? := by
  cases request <;> rfl

namespace System

variable {client : Client ρ σ} {system next moment last : System ρ σ}
variable {events before after : List (Event ρ)} {event : Option (Event ρ)}
variable {capacity : Capacity} {jobs : List σ}

/-- The rows of the puts that are under way. -/
def offers (system : System ρ σ) : List ρ :=
  system.tasks.filterMap fun task => task.phase.call?.bind fun call => call.request.row?

theorem Progress.settled (progress : Progress system event next)
    (settled : (events.filterMap Event.settled?).Perm
      (events.filterMap Event.accepted? ++ events.filterMap Event.handedBack?)) :
    ((events ++ event.toList).filterMap Event.settled?).Perm
      ((events ++ event.toList).filterMap Event.accepted? ++
        (events ++ event.toList).filterMap Event.handedBack?) := by
  cases progress with
  | call idle channel call? inHand? =>
      rw [Option.toList_some, filterMap_snoc, filterMap_snoc, filterMap_snoc]
      simpa [Event.settled?, Event.accepted?, Event.handedBack?] using settled
  | complete calling served =>
      rw [Option.toList_some, filterMap_snoc, filterMap_snoc, filterMap_snoc, served.settled?,
        List.append_assoc]
      refine (settled.append_right _).trans ?_
      rw [List.append_assoc]
      refine List.Perm.append_left _ ?_
      rw [← List.append_assoc, ← List.append_assoc]
      exact List.perm_append_comm.append_right _
  | giveBack holding channel call? inHand? =>
      rw [Option.toList_some, filterMap_snoc, filterMap_snoc, filterMap_snoc]
      simpa [Event.settled?, Event.accepted?, Event.handedBack?] using settled
  | silent silent => simpa using settled

/-- The rows of a task's calls are those of its answered puts and the one that it offers. -/
def OffersSettled (i : Nat) (events : List (Event ρ)) (system : System ρ σ) : Prop :=
  events.filterMap (Event.of i Event.offered?) =
    events.filterMap (Event.of i Event.settled?) ++ (system.offer? i).toList

theorem Progress.offersSettled {i : Nat} (progress : Progress system event next)
    (settled : OffersSettled i events system) : OffersSettled i (events ++ event.toList) next := by
  unfold OffersSettled offer? at settled ⊢
  cases progress with
  | @call j request next idle channel call? inHand? =>
      rw [Option.toList_some, filterMap_snoc, filterMap_snoc, call?]
      by_cases own : i = j
      · subst own
        rw [idle] at settled
        rw [settled]
        simp [Event.of, Event.task, offered?_eq_row?, Event.settled?, Call.start]
      · simpa [Event.of, Event.task, Ne.symm own, own] using settled
  | @complete j call expired channel signals reply next calling served nextChannel call? =>
      rw [Option.toList_some, filterMap_snoc, filterMap_snoc, call?]
      by_cases own : i = j
      · subst own
        rw [calling] at settled
        rw [settled]
        simp [Event.of, Event.task, Event.offered?, settled?_eq_row?]
      · simpa [Event.of, Event.task, Ne.symm own, own] using settled
  | giveBack holding channel call? inHand? =>
      rw [Option.toList_some, filterMap_snoc, filterMap_snoc, call?]
      simpa [Event.of, Event.settled?, Event.offered?] using settled
  | silent silent =>
      rw [Option.toList_none, List.append_nil, silent.call?]
      exact settled

theorem offers_eq_flatMap (system : System ρ σ) {n : Nat} (tasks : system.tasks.length = n) :
    system.offers = (List.range n).flatMap fun i => (system.offer? i).toList := by
  rw [offers, List.filterMap_eq_flatMap_toList, List.flatMap_def, List.flatMap_def]
  congr 1
  apply List.ext_getElem
  · simp [tasks]
  · intro i inTasks inRange
    rw [List.length_map] at inTasks
    rw [List.getElem_map, List.getElem_map, List.getElem_range, offer?, call?,
      List.getElem?_eq_getElem inTasks]
    rfl

theorem Run.offered_perm (run : Run client (initial capacity jobs) events system) :
    (events.filterMap Event.offered?).Perm
      (events.filterMap Event.settled? ++ system.offers) := by
  have inRange (shown : Event ρ) (member : shown ∈ events) : shown.task < jobs.length := by
    simpa [initial] using run.task_lt member
  have tasks : system.tasks.length = jobs.length := by
    simpa [initial] using run.length_tasks
  have own (i : Nat) : OffersSettled i events system :=
    run.invariant (motive := OffersSettled i)
      (by simp [OffersSettled, offer?, call?_initial])
      fun settled progress => progress.offersSettled settled
  have byTask := filterMap_perm_of_tasks Event.offered? inRange
  rw [List.flatMap_congr fun i _ => own i] at byTask
  rw [offers_eq_flatMap system tasks]
  refine byTask.trans ((List.flatMap_append_perm _ _ _).symm.trans ?_)
  exact (filterMap_perm_of_tasks Event.settled? inRange).symm.append_right _

theorem Run.accepted_perm (run : Run client (initial capacity jobs) events system) :
    (events.filterMap Event.offered?).Perm
      (events.filterMap Event.accepted? ++ events.filterMap Event.handedBack? ++
        system.offers) := by
  have settled := run.invariant (motive := fun events _ =>
    (events.filterMap Event.settled?).Perm
      (events.filterMap Event.accepted? ++ events.filterMap Event.handedBack?))
    .nil fun settled progress => progress.settled settled
  exact run.offered_perm.trans (settled.append_right _)

/-- Every row that has been offered is in one place. -/
theorem Run.rows_perm (run : Run client (initial capacity jobs) events system) :
    (events.filterMap Event.offered?).Perm
      (events.filterMap Event.taken? ++ system.channel.queue ++
        events.filterMap Event.handedBack? ++ system.offers) := by
  rw [run.ordered]
  exact run.accepted_perm

theorem duplicate_of_perm {α : Type} {x : α} {l m : List α} (perm : l.Perm m)
    (twice : l.Duplicate x) : m.Duplicate x := by
  classical
  rw [List.duplicate_iff_two_le_count] at twice ⊢
  rwa [← perm.count_eq]

/-- A row is in the queue only where a put of it has been stored. -/
theorem Run.stored_of_queued (run : Run client (initial capacity jobs) events system) {row : ρ}
    (queued : row ∈ system.channel.queue) :
    ∃ i within, .completed i (.put row within) .stored ∈ events := by
  have accepted : row ∈ events.filterMap Event.accepted? := by
    rw [← run.ordered]
    exact List.mem_append_right _ queued
  obtain ⟨shown, member, seen⟩ := List.mem_filterMap.mp accepted
  unfold Event.accepted? at seen
  split at seen
  · cases seen
    exact ⟨_, _, member⟩
  · cases seen

/-- A row that is handed back, and is in the queue at some moment of the run, is offered by more
than one put. -/
theorem Run.duplicate_of_queued (run : Run client (initial capacity jobs) before moment)
    (later : Run client moment after last) {row : ρ}
    (handedBack : row ∈ (before ++ after).filterMap Event.handedBack?)
    (queued : row ∈ moment.channel.queue) :
    ((before ++ after).filterMap Event.offered?).Duplicate row := by
  have accepted : row ∈ (before ++ after).filterMap Event.accepted? := by
    rw [List.filterMap_append, ← run.ordered]
    exact List.mem_append_left _ (List.mem_append_right _ queued)
  have twice : [row, row].Sublist ((before ++ after).filterMap Event.accepted? ++
      (before ++ after).filterMap Event.handedBack?) :=
    (List.singleton_sublist.mpr accepted).append (List.singleton_sublist.mpr handedBack)
  refine duplicate_of_perm (run.trans later).accepted_perm.symm ?_
  exact (List.duplicate_iff_sublist.mpr twice).mono_sublist (List.sublist_append_left _ _)

end System

end BindStream
