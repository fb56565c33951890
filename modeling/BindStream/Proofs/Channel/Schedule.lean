import BindStream.Channel.Schedule
import BindStream.Proofs.Channel.Effort
import BindStream.Proofs.Channel.Stuck

namespace BindStream.System

/-! Taking turns is one of the interleavings. It goes on for as long as a task can move. -/

variable {ρ σ : Type} {client : Client ρ σ} {system next middle last : System ρ σ}
variable {task : Task ρ σ} {i : Nat} {events rest : List (Event ρ)} {moves more : List Move}

theorem play_append (played : system.play client moves = some (events, middle))
    (later : middle.play client more = some (rest, last)) :
    system.play client (moves ++ more) = some (events ++ rest, last) := by
  induction moves generalizing system events with
  | nil =>
      cases played
      exact later
  | cons move moves ih =>
      obtain ⟨next, moved, played⟩ := Option.bind_eq_some_iff.mp played
      obtain ⟨⟨between, final⟩, played, same⟩ := Option.bind_eq_some_iff.mp played
      cases same
      simp [play, moved, ih played]

theorem not_sleepsOn (awake : task.isAsleep = false) (condition : Condition) :
    task.sleepsOn condition = false := by
  obtain ⟨job, phase⟩ := task
  cases phase with
  | asleep call slept => cases awake
  | _ => rfl

/-- Whom the schedule notifies is a sleeper, if there is any. -/
theorem exists_deliver_first {condition : Condition} {new : Task ρ σ}
    (at_i : system.tasks[i]? = some task) (awake : task.isAsleep = false)
    (still : new.isAsleep = false) :
    ∃ next, (system.setTask i new).deliver (.one condition)
      (system.tasks.findIdx? (·.sleepsOn condition)) = some next := by
  cases first : system.tasks.findIdx? (·.sleepsOn condition) with
  | none =>
      have nobody := List.findIdx?_eq_none_iff.mp first
      refine ⟨_, if_neg ?_⟩
      rw [Bool.not_eq_true, List.any_eq_false]
      intro other member
      rw [Bool.not_eq_true]
      rcases List.mem_or_eq_of_mem_set member with before | rfl
      · exact nobody other before
      · exact not_sleepsOn still condition
  | some j =>
      -- The sender is awake, so whom it finds asleep is another task.
      obtain ⟨inRange, sleeps, -⟩ := List.findIdx?_eq_some_iff_getElem.mp first
      have at_j : (system.setTask i new).tasks[j]? = some system.tasks[j] := by
        rw [tasks_setTask at_i, if_neg, List.getElem?_eq_getElem inRange]
        rintro rfl
        rw [List.getElem?_eq_getElem inRange, Option.some.injEq] at at_i
        rw [at_i, not_sleepsOn awake] at sleeps
        cases sleeps
      exact ⟨_, Option.bind_eq_some_iff.mpr ⟨_, at_j, if_pos sleeps⟩⟩

theorem exists_turn (at_i : system.tasks[i]? = some task) (awake : task.isAsleep = false)
    (busy : task.hasEnded client = false) : ∃ next, system.turn client i = some next := by
  obtain ⟨job, phase⟩ := task
  simp only [turn, move, advance, at_i, Option.bind_eq_bind, Option.bind_some]
  cases phase with
  | ready =>
      obtain ⟨request, asked⟩ :=
        Option.isSome_iff_exists.mp (Option.isNone_eq_false_iff.mp busy)
      exact ⟨_, Option.bind_eq_some_iff.mpr ⟨request, asked, rfl⟩⟩
  | entering call wake =>
      dsimp only
      cases call.enter system.channel wake system.clock with
      | wait condition => exact ⟨_, rfl⟩
      | reply channel signals reply => exact ⟨_, rfl⟩
  | asleep call condition => cases awake
  | signalling signals reply =>
      cases signals with
      | nil => exact ⟨_, rfl⟩
      | cons signal signals =>
          cases signal with
          | all condition => exact ⟨_, rfl⟩
          | one condition =>
              have first : system.sleeperFor i =
                  system.tasks.findIdx? (·.sleepsOn condition) := by
                simp [sleeperFor, at_i]
              rw [first]
              exact exists_deliver_first at_i rfl rfl

theorem advance_eq_none_of_turn (idle : system.turn client i = none) (sleeper : Option Nat) :
    system.advance client i sleeper = none := by
  cases at_i : system.tasks[i]? with
  | none => simp [advance, at_i]
  | some task =>
      by_cases awake : task.isAsleep = false
      · by_cases busy : task.hasEnded client = false
        · obtain ⟨next, moved⟩ := exists_turn at_i awake busy
          cases idle.symm.trans moved
        · obtain ⟨job, rfl, ended⟩ := Task.ready_of_hasEnded (Bool.not_eq_false _ ▸ busy)
          simp [advance, at_i, ended]
      · obtain ⟨job, phase⟩ := task
        cases phase with
        | asleep call condition => simp [advance, at_i]
        | _ => exact absurd rfl awake

theorem turn_eq_none_of_turns {tasks : List Nat} (idle : system.turns client tasks = none) :
    ∀ i ∈ tasks, system.turn client i = none := by
  induction tasks with
  | nil => simp
  | cons i tasks ih =>
      rw [turns] at idle
      cases moved : system.turn client i with
      | none =>
          rw [moved] at idle
          exact List.forall_mem_cons.mpr ⟨moved, ih idle⟩
      | some next =>
          rw [moved] at idle
          cases idle

theorem stuck_of_round (idle : system.round client = none) : system.Stuck client := by
  intro i sleeper
  by_cases inRange : i < system.tasks.length
  · have turn := turn_eq_none_of_turns idle i (List.mem_range.mpr inRange)
    exact advance_eq_none_of_turn turn sleeper
  · have none : system.tasks[i]? = none := List.getElem?_eq_none (Nat.le_of_not_lt inRange)
    simp [advance, none]

theorem exists_play_of_turns {tasks : List Nat} (moved : system.turns client tasks = some next) :
    ∃ moves events, system.play client moves = some (events, next) ∧
      0 < moves.countP Move.advances ∧ moves.countP Move.rouses = 0 := by
  induction tasks generalizing system with
  | nil => cases moved
  | cons i tasks ih =>
      rw [turns] at moved
      cases first : system.turn client i with
      | none =>
          rw [first] at moved
          exact ih moved
      | some middle =>
          rw [first, Option.some.injEq] at moved
          have started : system.play client [.advance i (system.sleeperFor i)] =
              some ((system.event? client (.advance i (system.sleeperFor i))).toList, middle) := by
            have first : system.move client (.advance i (system.sleeperFor i)) = some middle :=
              first
            simp [play, first]
          cases later : middle.turns client tasks with
          | none =>
              rw [later] at moved
              cases moved
              exact ⟨_, _, started, Nat.one_pos, rfl⟩
          | some last =>
              rw [later] at moved
              cases moved
              obtain ⟨moves, events, played, advances, quiet⟩ := ih later
              refine ⟨_, _, play_append started played, ?_, ?_⟩
              · simp [Move.advances]
              · simpa [Move.rouses] using quiet

theorem nextDeadline_eq_none (endless : ∀ task ∈ system.tasks, task.deadline? = none) :
    system.nextDeadline = none := by
  rw [nextDeadline, List.filterMap_eq_nil_iff.mpr endless]
  rfl

/-- A run by turns is stopped, or has spent all of its fuel, or is stuck. No one is woken from
outside in it if no wait has an end. -/
theorem exists_play_of_run {stop : System ρ σ → Bool} {horizon : Option Nat} (fuel : Nat)
    (timeless : ∀ moves events last, system.play client moves = some (events, last) →
      last.nextDeadline = none) :
    ∃ moves events, system.play client moves =
        some (events, system.run client stop horizon fuel) ∧
      moves.countP Move.rouses = 0 ∧
      (stop (system.run client stop horizon fuel) = true ∨
        (system.run client stop horizon fuel).Stuck client ∨
          fuel ≤ moves.countP Move.advances) := by
  induction fuel generalizing system with
  | zero => exact ⟨[], [], rfl, rfl, .inr (.inr (Nat.zero_le _))⟩
  | succ fuel ih =>
      by_cases stopped : stop system = true
      · have ends : system.run client stop horizon (fuel + 1) = system := by simp [run, stopped]
        rw [ends]
        exact ⟨[], [], rfl, rfl, .inl stopped⟩
      · cases moved : system.round client with
        | none =>
            have ends : system.run client stop horizon (fuel + 1) = system := by
              simp [run, stopped, moved, timeless [] [] system rfl]
            rw [ends]
            exact ⟨[], [], rfl, rfl, .inr (.inl (stuck_of_round moved))⟩
        | some next =>
            have goesOn : system.run client stop horizon (fuel + 1) =
                next.run client stop horizon fuel := by
              simp [run, stopped, moved]
            obtain ⟨moves, events, played, advances, quiet⟩ := exists_play_of_turns moved
            obtain ⟨more, rest, later, calm, outcome⟩ := ih fun more rest last later =>
              timeless _ _ _ (play_append played later)
            rw [goesOn]
            refine ⟨_, _, play_append played later, ?_, ?_⟩
            · rw [List.countP_append, quiet, calm]
            · rw [List.countP_append]
              exact outcome.imp_right (Or.imp_right fun spent => by omega)

end BindStream.System
