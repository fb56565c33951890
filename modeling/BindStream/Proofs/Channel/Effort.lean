import BindStream.Proofs.Channel.Change
import Mathlib.Data.List.Count

namespace BindStream

/-! The calls that are answered in a run pay for all of its steps, but for the wake-ups that come
from outside. -/

variable {ρ σ : Type}

namespace Move

def advances : Move → Bool
  | advance _ _ => true
  | _ => false

/-- Whether a task is woken without a notification. -/
def rouses : Move → Bool
  | expire _ => true
  | disturb _ => true
  | _ => false

end Move

/-- The steps that a task may still take before its next call is answered, and those that its
signals may make others take, where there are `n` tasks. -/
def Phase.credit (n : Nat) : Phase ρ → Nat
  | ready => 2
  | entering _ _ => 1
  | asleep _ _ => 0
  | signalling signals _ => 3 + n * signals.length

theorem Channel.Served.length_signals {channel next : Channel ρ} {expired : Bool}
    {request : Request ρ} {signals : List Signal} {reply : Reply ρ}
    (served : channel.Served expired request next signals reply) : signals.length ≤ 2 := by
  cases served <;> simp

def Task.credit (n : Nat) (task : Task ρ σ) : Nat := task.phase.credit n

namespace System

variable {client : Client ρ σ} {system next last : System ρ σ} {n i : Nat}
variable {old new : Task ρ σ} {tasks : List (Task ρ σ)} {events : List (Event ρ)}

def total (n : Nat) : List (Task ρ σ) → Nat
  | [] => 0
  | task :: tasks => task.credit n + total n tasks

def credit (system : System ρ σ) : Nat := total system.tasks.length system.tasks

theorem total_set (at_i : tasks[i]? = some old) (new : Task ρ σ) :
    total n (tasks.set i new) + old.credit n = total n tasks + new.credit n := by
  induction tasks generalizing i with
  | nil => cases at_i
  | cons task tasks ih =>
      cases i with
      | zero =>
          cases at_i
          simp only [List.set_cons_zero, total]
          omega
      | succ i =>
          have rest := ih at_i
          simp only [List.set_cons_succ, total]
          omega

theorem credit_setTask (at_i : system.tasks[i]? = some old) (new : Task ρ σ) :
    (system.setTask i new).credit + old.credit system.tasks.length =
      system.credit + new.credit system.tasks.length := by
  have sum := total_set at_i new (n := system.tasks.length)
  simpa [credit, setTask] using sum

theorem credit_wake (task : Task ρ σ) (condition : Condition) :
    (if task.sleepsOn condition then task.wake .notified else task).credit n ≤
      task.credit n + task.isAsleep.toNat := by
  obtain ⟨job, phase⟩ := task
  cases phase with
  | asleep call slept =>
      by_cases told : (slept == condition) = true <;>
        simp [Task.sleepsOn, told, Task.wake, Task.credit, Phase.credit, Task.isAsleep]
  | _ => simp [Task.sleepsOn]

theorem credit_deliver {signal : Signal} {sleeper : Option Nat}
    (delivered : system.deliver signal sleeper = some next) :
    next.credit ≤ system.credit + system.tasks.countP Task.isAsleep := by
  cases signal with
  | one condition =>
      rcases deliver_one_eq delivered with ⟨-, rfl⟩ | ⟨j, job, call, at_j, rfl⟩
      · omega
      · have sum := credit_setTask at_j ⟨job, .entering call .notified⟩
        have sleeps : 0 < system.tasks.countP Task.isAsleep :=
          List.countP_pos_iff.mpr ⟨_, List.mem_of_getElem? at_j, rfl⟩
        simp only [Task.credit, Phase.credit] at sum
        omega
  | all condition =>
      cases delivered
      simp only [credit, List.length_map]
      -- The credits are for as many tasks as there are, while the induction is on a part of them.
      generalize system.tasks.length = n
      induction system.tasks with
      | nil => simp
      | cons task tasks ih =>
          have first := credit_wake (n := n) task condition
          rw [List.countP_cons]
          simp only [List.map_cons, total]
          have flag : (if task.isAsleep = true then 1 else 0) = task.isAsleep.toNat := by
            cases task.isAsleep <;> rfl
          rw [flag]
          omega

theorem countP_isAsleep_lt {task : Task ρ σ} (at_i : system.tasks[i]? = some task)
    (awake : task.isAsleep = false) :
    system.tasks.countP Task.isAsleep < system.tasks.length :=
  List.countP_lt_length_iff.mpr ⟨task, List.mem_of_getElem? at_i, awake⟩

/-- A step that a task takes is paid for by its credit, or by the answer to its call. -/
theorem credit_advance {sleeper : Option Nat}
    (moved : system.advance client i sleeper = some next) :
    next.credit + 1 ≤ system.credit + (2 * system.tasks.length + 3) *
      ((system.event? client (.advance i sleeper)).toList.filterMap Event.reply?).length := by
  obtain ⟨⟨job, phase⟩, at_i, moved⟩ := Option.bind_eq_some_iff.mp moved
  rw [event?, at_i, Option.bind_some]
  dsimp only at moved ⊢
  cases phase with
  | ready =>
      obtain ⟨request, asked, moved⟩ := Option.bind_eq_some_iff.mp moved
      cases moved
      have sum := credit_setTask at_i ⟨job, .entering (.start request system.clock) .first⟩
      simp only [Task.credit, Phase.credit] at sum
      omega
  | entering call wake =>
      cases answered : call.enter system.channel wake system.clock with
      | wait condition =>
          simp only [answered, Option.some.injEq] at moved
          subst moved
          have sum := credit_setTask at_i ⟨job, .asleep call condition⟩
          simp only [Task.credit, Phase.credit] at sum
          omega
      | reply channel signals reply =>
          simp only [answered, Option.some.injEq] at moved
          subst moved
          obtain ⟨expired, -, served⟩ := Call.served_of_enter answered
          have few := Nat.mul_le_mul_left system.tasks.length served.length_signals
          have sum := credit_setTask at_i ⟨job, .signalling signals reply⟩
          simp only [Task.credit, Phase.credit] at sum
          simp only [taskEvent?, answered]
          show (system.setTask i ⟨job, .signalling signals reply⟩).credit + 1 ≤
            system.credit + (2 * system.tasks.length + 3) * 1
          omega
  | asleep call condition => cases moved
  | signalling signals reply =>
      cases signals with
      | nil =>
          cases moved
          have sum := credit_setTask at_i ⟨client.resume job reply, .ready⟩
          simp only [Task.credit, Phase.credit, List.length_nil] at sum
          omega
      | cons signal signals =>
          have sum := credit_setTask at_i ⟨job, .signalling signals reply⟩
          simp only [Task.credit, Phase.credit, List.length_cons, Nat.mul_succ] at sum
          have woken := credit_deliver moved
          have sent : (system.setTask i ⟨job, .signalling signals reply⟩).tasks[i]? =
              some ⟨job, .signalling signals reply⟩ := by
            rw [tasks_setTask at_i, if_pos rfl]
          -- The sender is awake, so the signal has paid for all whom it may wake, and for itself.
          have awake := countP_isAsleep_lt sent rfl
          have count : (system.setTask i ⟨job, .signalling signals reply⟩).tasks.length =
            system.tasks.length := List.length_set
          omega

theorem credit_rouse (at_i : system.tasks[i]? = some old) (cause : Wake) :
    (system.setTask i (old.wake cause)).credit ≤ system.credit + 1 := by
  have sum := credit_setTask at_i (old.wake cause)
  obtain ⟨job, phase⟩ := old
  cases phase <;> simp only [Task.credit, Phase.credit, Task.wake] at sum ⊢ <;> omega

theorem credit_move {move : Move} (moved : system.move client move = some next) :
    next.credit + move.advances.toNat ≤ system.credit + (2 * system.tasks.length + 3) *
      ((system.event? client move).toList.filterMap Event.reply?).length +
        move.rouses.toNat := by
  cases move with
  | advance i sleeper => exact credit_advance moved
  | expire i =>
      obtain ⟨task, at_i, moved⟩ := Option.bind_eq_some_iff.mp moved
      split at moved
      · cases moved
        simpa [event?, Move.advances, Move.rouses] using credit_rouse at_i .expired
      · cases moved
  | disturb i =>
      obtain ⟨task, at_i, moved⟩ := Option.bind_eq_some_iff.mp moved
      split at moved
      · cases moved
        simpa [event?, Move.advances, Move.rouses] using credit_rouse at_i .spurious
      · cases moved
  | pass time =>
      cases moved
      exact Nat.le_refl _

theorem credit_play {moves : List Move} (played : system.play client moves = some (events, last)) :
    last.credit + moves.countP Move.advances ≤ system.credit +
      (2 * system.tasks.length + 3) * (events.filterMap Event.reply?).length +
        moves.countP Move.rouses := by
  induction moves generalizing system events with
  | nil =>
      cases played
      simp
  | cons move moves ih =>
      obtain ⟨next, moved, played⟩ := Option.bind_eq_some_iff.mp played
      obtain ⟨⟨rest, final⟩, played, same⟩ := Option.bind_eq_some_iff.mp played
      cases same
      have first := credit_move moved
      have later := ih played
      rw [(effect_of_move moved).length_tasks] at later
      have flag (p : Move → Bool) : (move :: moves).countP p = moves.countP p + (p move).toNat := by
        rw [List.countP_cons]
        cases p move <;> rfl
      rw [flag, flag, List.filterMap_append, List.length_append, Nat.mul_add]
      omega

theorem total_start (n : Nat) (jobs : List σ) :
    total n (jobs.map (Task.start (ρ := ρ))) = 2 * jobs.length := by
  induction jobs with
  | nil => rfl
  | cons job jobs ih =>
      rw [List.map_cons, total, ih, List.length_cons]
      simp only [Task.start, Task.credit, Phase.credit]
      omega

/-- However the tasks interleave, their steps are bounded by the calls that are answered. -/
theorem advances_le {capacity : Capacity} {jobs : List σ} {moves : List Move}
    (played : (initial capacity jobs).play client moves = some (events, last)) :
    moves.countP Move.advances ≤ 2 * jobs.length +
      (2 * jobs.length + 3) * (events.filterMap Event.reply?).length +
        moves.countP Move.rouses := by
  have bound := credit_play played
  have start : (initial (ρ := ρ) capacity jobs).credit = 2 * jobs.length := total_start _ jobs
  have length : (initial (ρ := ρ) capacity jobs).tasks.length = jobs.length := List.length_map _
  rw [start, length] at bound
  omega

end System

end BindStream
