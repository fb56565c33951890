import BindStream.Proofs.Channel.Step
import Mathlib.Algebra.Order.BigOperators.Group.List
import Mathlib.Algebra.Order.Group.Nat
import Mathlib.Data.List.Perm.Basic

namespace BindStream

/-! Runs of a system of tasks, with what they show of the calls. -/

variable {ρ σ : Type}

namespace System

variable {client : Client ρ σ} {start system next : System ρ σ}
variable {events : List (Event ρ)}

/-- A system that some interleaving leads to, with the events on the way. -/
inductive Run (client : Client ρ σ) (start : System ρ σ) :
    List (Event ρ) → System ρ σ → Prop
  | start : Run client start [] start
  | step {events : List (Event ρ)} {system next : System ρ σ} {move : Move}
      (run : Run client start events system)
      (moved : system.move client move = some next) :
      Run client start (events ++ (system.event? client move).toList) next

theorem reachable_iff_exists_run :
    Reachable client start system ↔ ∃ events, Run client start events system := by
  constructor
  · intro reachable
    induction reachable with
    | start => exact ⟨[], .start⟩
    | step _ step ih =>
        obtain ⟨events, run⟩ := ih
        obtain ⟨move, moved⟩ := step
        exact ⟨_, run.step moved⟩
  · rintro ⟨events, run⟩
    induction run with
    | start => exact .start
    | step _ moved ih => exact ih.step ⟨_, moved⟩

/-- What holds at the start and is kept by every step, as it bears on the calls, holds after
every run. -/
theorem Run.invariant {motive : List (Event ρ) → System ρ σ → Prop}
    (run : Run client start events system) (initial : motive [] start)
    (step : ∀ {events : List (Event ρ)} {system next : System ρ σ}
      {event : Option (Event ρ)},
      motive events system → Progress system event next →
        motive (events ++ event.toList) next) :
    motive events system := by
  induction run with
  | start => exact initial
  | step _ moved ih => exact step ih (effect_of_move moved).progress

def play (client : Client ρ σ) (system : System ρ σ) :
    List Move → Option (List (Event ρ) × System ρ σ)
  | [] => some ([], system)
  | move :: moves => do
    let next ← system.move client move
    let (events, last) ← play client next moves
    some ((system.event? client move).toList ++ events, last)

theorem Run.play {last : System ρ σ} {moves : List Move} {more : List (Event ρ)}
    (run : Run client start events system)
    (played : system.play client moves = some (more, last)) :
    Run client start (events ++ more) last := by
  induction moves generalizing events system more with
  | nil =>
      cases played
      rw [List.append_nil]
      exact run
  | cons move moves ih =>
      obtain ⟨next, moved, played⟩ := Option.bind_eq_some_iff.mp played
      obtain ⟨⟨rest, final⟩, played, same⟩ := Option.bind_eq_some_iff.mp played
      cases same
      rw [← List.append_assoc]
      exact ih (run.step moved) played

end System

namespace Event

def task : Event ρ → Nat
  | called task _ => task
  | completed task _ _ => task
  | returned task _ => task

def offered? : Event ρ → Option ρ
  | called _ (.put row _) => some row
  | _ => none

/-- The row of a put that has succeeded. -/
def accepted? : Event ρ → Option ρ
  | completed _ (.put row _) .stored => some row
  | _ => none

def taken? : Event ρ → Option ρ
  | completed _ _ (.row row) => some row
  | _ => none

def reply? : Event ρ → Option (Reply ρ)
  | completed _ _ reply => some reply
  | _ => none

def returned? : Event ρ → Option (Reply ρ)
  | returned _ reply => some reply
  | _ => none

end Event

variable {α : Type}

def Event.of (i : Nat) (view : Event ρ → Option α) (event : Event ρ) : Option α :=
  if event.task = i then view event else none

theorem filterMap_snoc (view : Event ρ → Option α) (events : List (Event ρ))
    (event : Event ρ) :
    (events ++ [event]).filterMap view = events.filterMap view ++ (view event).toList := by
  cases seen : view event <;> simp [seen]

theorem length_replies_snoc (i : Nat) (events : List (Event ρ)) (request : Request ρ)
    (reply : Reply ρ) :
    ((events ++ [Event.completed i request reply]).filterMap (Event.of i Event.reply?)).length =
      (events.filterMap (Event.of i Event.reply?)).length + 1 := by
  simp [Event.of, Event.task, Event.reply?]

theorem filterMap_of_sublist (i : Nat) (view : Event ρ → Option α)
    (events : List (Event ρ)) :
    (events.filterMap (Event.of i view)).Sublist (events.filterMap view) := by
  induction events with
  | nil => exact List.Sublist.refl _
  | cons event events ih =>
      by_cases own : event.task = i
      · cases seen : view event with
        | none => simpa [Event.of, own, seen] using ih
        | some x => simpa [Event.of, own, seen] using ih
      · rw [List.filterMap_cons_none (by simp [Event.of, own])]
        cases seen : view event with
        | none => simpa [seen] using ih
        | some x =>
            rw [List.filterMap_cons_some seen]
            exact ih.trans (List.sublist_cons_self x _)

/-! A task's answers, and what is seen of them. -/

theorem Event.completed_of_taken? {shown : Event ρ} (seen : shown.taken? ≠ none) :
    ∃ request reply, shown = .completed shown.task request reply := by
  cases shown with
  | completed task request reply => exact ⟨request, reply, rfl⟩
  | _ => exact absurd rfl seen

theorem Event.completed_of_reply? {shown : Event ρ} (seen : shown.reply? ≠ none) :
    ∃ request reply, shown = .completed shown.task request reply := by
  cases shown with
  | completed task request reply => exact ⟨request, reply, rfl⟩
  | _ => exact absurd rfl seen

theorem Event.completed_of_accepted? {shown : Event ρ} (seen : shown.accepted? ≠ none) :
    ∃ request reply, shown = .completed shown.task request reply := by
  cases shown with
  | completed task request reply => exact ⟨request, reply, rfl⟩
  | _ => exact absurd rfl seen

section

variable {i : Nat} {events : List (Event ρ)} {event : Option (Event ρ)}
variable {view : Event ρ → Option α}

theorem mem_of_others
    (others : ∀ shown ∈ event, ∀ request reply, shown ≠ .completed i request reply)
    {request : Request ρ} {reply : Reply ρ}
    (shown : .completed i request reply ∈ events ++ event.toList) :
    .completed i request reply ∈ events := by
  rcases List.mem_append.mp shown with before | last
  · exact before
  · exact absurd rfl (others _ (Option.mem_toList.mp last) request reply)

theorem mem_completed_snoc {asked request : Request ρ} {given reply : Reply ρ} :
    .completed i asked given ∈ events ++ [.completed i request reply] ↔
      .completed i asked given ∈ events ∨ asked = request ∧ given = reply := by
  simp

/-- Where no call of a task is answered, what is seen of the answers does not change. -/
theorem filterMap_of_others
    (sees : ∀ shown, view shown ≠ none →
      ∃ request reply, shown = .completed shown.task request reply)
    (others : ∀ shown ∈ event, ∀ request reply, shown ≠ .completed i request reply) :
    (events ++ event.toList).filterMap (Event.of i view) =
      events.filterMap (Event.of i view) := by
  cases event with
  | none => rw [Option.toList_none, List.append_nil]
  | some shown =>
      have quiet : Event.of i view shown = none := by
        rw [Event.of]
        split
        · next own =>
            cases seen : view shown with
            | none => rfl
            | some found =>
                obtain ⟨request, reply, same⟩ := sees shown (seen ▸ Option.some_ne_none found)
                exact absurd (own ▸ same) (others shown rfl request reply)
        · rfl
      rw [Option.toList_some, filterMap_snoc, quiet, Option.toList_none, List.append_nil]

theorem filterMap_of_only (only : ∀ shown ∈ events, view shown ≠ none → shown.task = i) :
    events.filterMap (Event.of i view) = events.filterMap view := by
  refine List.filterMap_congr fun shown member => ?_
  rw [Event.of]
  split
  · rfl
  · next other =>
      cases seen : view shown with
      | none => rfl
      | some found => exact absurd (only shown member (seen ▸ Option.some_ne_none found)) other

/-- What one of two tasks does not show is shown by the other. -/
theorem filterMap_of_unseen {j : Nat}
    (sees : ∀ shown, view shown ≠ none →
      ∃ request reply, shown = .completed shown.task request reply)
    (inRange : ∀ shown ∈ events, shown.task < 2)
    (unseen : ∀ request reply, .completed i request reply ∈ events →
      view (.completed i request reply) = none) (two : j + i = 1) :
    events.filterMap (Event.of j view) = events.filterMap view := by
  apply filterMap_of_only
  intro shown member seen
  have bound := inRange shown member
  have apart : shown.task ≠ i := by
    intro own
    obtain ⟨request, reply, same⟩ := sees shown seen
    rw [own] at same
    subst same
    exact seen (unseen request reply member)
  omega

end

theorem flatMap_of_task (view : Event ρ → Option α) (event : Event ρ) (n : Nat) :
    ((List.range n).flatMap fun i => (Event.of i view event).toList) =
      if event.task < n then (view event).toList else [] := by
  induction n with
  | zero => rfl
  | succ n ih =>
      rw [List.range_succ, List.flatMap_append, ih, List.flatMap_singleton, Event.of]
      rcases Nat.lt_trichotomy event.task n with below | same | above
      · rw [if_pos below, if_neg (by omega), if_pos (by omega)]
        simp
      · rw [if_neg (by omega), if_pos same, if_pos (by omega)]
        simp
      · rw [if_neg (by omega), if_neg (by omega), if_neg (by omega)]
        simp

/-- What is seen of a run is what is seen of its tasks, one by one. -/
theorem filterMap_perm_of_tasks (view : Event ρ → Option α) {events : List (Event ρ)} {n : Nat}
    (inRange : ∀ shown ∈ events, shown.task < n) :
    (events.filterMap view).Perm
      ((List.range n).flatMap fun i => events.filterMap (Event.of i view)) := by
  induction events with
  | nil => simp
  | cons event events ih =>
      have first (view : Event ρ → Option α) :
          (event :: events).filterMap view = (view event).toList ++ events.filterMap view := by
        cases seen : view event <;> simp [seen]
      have here := flatMap_of_task view event n
      rw [if_pos (inRange event List.mem_cons_self)] at here
      have rest := ih fun shown member => inRange shown (List.mem_cons_of_mem _ member)
      simp only [first]
      rw [← here]
      exact (rest.append_left _).trans (List.flatMap_append_perm _ _ _)

theorem length_filterMap_le_of_tasks {view : Event ρ → Option α} {events : List (Event ρ)}
    {n most : Nat} (inRange : ∀ shown ∈ events, shown.task < n)
    (few : ∀ i < n, (events.filterMap (Event.of i view)).length ≤ most) :
    (events.filterMap view).length ≤ n * most := by
  have apart := (filterMap_perm_of_tasks view inRange).length_eq
  have sum := List.sum_le_card_nsmul
    ((List.range n).map fun i => (events.filterMap (Event.of i view)).length) most
    (by simpa using few)
  rw [apart, List.length_flatMap]
  simpa using sum

theorem length_filterMap_of_two (view : Event ρ → Option α) {events : List (Event ρ)}
    (inRange : ∀ shown ∈ events, shown.task < 2) :
    (events.filterMap view).length = (events.filterMap (Event.of 0 view)).length +
      (events.filterMap (Event.of 1 view)).length := by
  have apart := (filterMap_perm_of_tasks view inRange).length_eq
  simpa [List.range_succ] using apart

end BindStream
