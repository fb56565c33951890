import BindStream.Proofs.Channel.Leaving
import BindStream.Proofs.QueryStream.Closing

namespace BindStream.QueryStream

/-! How a stream finishes: its consumer cancels it and waits for the producer. -/

/-- A stream that finishes with an ending: `finish` gives it, and in whatever order the tasks take
their steps from the cancellation on, they take a bounded number of them, and come to that ending
and to no other. -/
structure Finishes (stream : QueryStream) (ending : Ending) : Prop where
  finish : stream.finish = some ending
  plays : ∀ moves events system,
    (stream.asked [.ask .cancel]).play StreamTask.client moves = some (events, system) →
      (∀ found, (QueryStream.mk system).ending? = some found → found = ending) ∧
      (system.Stuck StreamTask.client →
        (QueryStream.mk system).consumerDone = true ∧
          (QueryStream.mk system).ending? = some ending) ∧
      moves.countP Move.advances ≤ 28 + moves.countP Move.rouses

/-- What the tasks of a stream that is being finished are in the end. -/
def lastJob (worker : Worker Row) (ending : Ending) : Nat → StreamTask
  | 0 => .consumer { worker with todo := [], outcomes := [.reply .done] }
  | _ + 1 => .producer (.ended ending)

variable {stream : QueryStream} {system last : System Row StreamTask} {events : List (Event Row)}
variable {worker : Worker Row} {ending : Ending} {moves : List Move}

theorem leaving_asked {reader writer : Task Row StreamTask} {calls : Nat}
    (tasks : stream.system.tasks = [reader, writer])
    (leaves : writer.Leaving StreamTask.client (.producer (.ended ending)) calls) :
    (stream.asked [.ask .cancel]).Leaving StreamTask.client (lastJob stream.consumer ending) where
  leaves {i task} at_i := by
    have asked : (stream.asked [.ask .cancel]).tasks =
        [.start (.consumer (stream.consumer.assign [.ask .cancel])), writer] := by
      simp [QueryStream.asked, System.setTask, tasks]
    rw [asked] at at_i
    cases i with
    | zero =>
        cases at_i
        exact ⟨1, .ready rfl rfl⟩
    | succ i =>
        cases i with
        | zero =>
            cases at_i
            exact ⟨calls, leaves⟩
        | succ i => cases at_i
  idle i := by cases i <;> rfl

theorem ending_of_leaving (leaving : system.Leaving StreamTask.client (lastJob worker ending))
    {found : Ending} (ended : (QueryStream.mk system).ending? = some found) : found = ending := by
  obtain ⟨phase, at_1⟩ := ending?_eq_some ended
  obtain ⟨calls, leaves⟩ := leaving.leaves at_1
  cases leaves.eq_of_idle rfl
  rfl

theorem ended_of_stuck (leaving : system.Leaving StreamTask.client (lastJob worker ending))
    (two : system.tasks.length = 2) (stuck : system.Stuck StreamTask.client) :
    (QueryStream.mk system).consumerDone = true ∧
      (QueryStream.mk system).ending? = some ending := by
  obtain ⟨reader, writer, tasks⟩ := List.length_eq_two.mp two
  have at_0 : system.tasks[0]? = some reader := by rw [tasks]; rfl
  have at_1 : system.tasks[1]? = some writer := by rw [tasks]; rfl
  cases leaving.eq_of_stuck stuck at_0
  cases leaving.eq_of_stuck stuck at_1
  constructor
  · rw [consumerDone, System.hasEnded, at_0]
    rfl
  · rw [ending?, job?, at_1]
    rfl

theorem ends_of_play (leaving : system.Leaving StreamTask.client (lastJob worker ending))
    (two : system.tasks.length = 2)
    (played : system.play StreamTask.client moves = some (events, last)) :
    (∀ found, (QueryStream.mk last).ending? = some found → found = ending) ∧
    (last.Stuck StreamTask.client →
      (QueryStream.mk last).consumerDone = true ∧
        (QueryStream.mk last).ending? = some ending) ∧
    moves.countP Move.advances ≤ 28 + moves.countP Move.rouses := by
  have run := System.Run.start.play played
  have later := leaving.trans run
  have bound := leaving.advances_le played
  rw [two] at bound
  exact ⟨fun _ => ending_of_leaving later,
    ended_of_stuck later (run.length_tasks.trans two), bound⟩

/-! The schedule in which the tasks take turns. -/

theorem lt_fuel (stream : QueryStream) (two : stream.system.tasks.length = 2) (rows : Nat) :
    32 < stream.fuel rows := by
  obtain ⟨reader, writer, tasks⟩ := List.length_eq_two.mp two
  simp only [fuel, tasks, List.map_cons, List.map_nil, List.foldl_cons, List.foldl_nil]
  omega

/-- A stream that runs until something is the case plays some moves, and stops there, or where it is
stuck, or where its rounds are used up. -/
theorem exists_play_of_runUntil (stream : QueryStream) (rows : Nat) (stop : QueryStream → Bool)
    (timeless : ∀ moves events last, stream.system.play StreamTask.client moves =
      some (events, last) → last.nextDeadline = none) :
    ∃ moves events, stream.system.play StreamTask.client moves =
        some (events, (stream.runUntil rows stop).system) ∧
      moves.countP Move.rouses = 0 ∧
      (stop (stream.runUntil rows stop) = true ∨
        (stream.runUntil rows stop).system.Stuck StreamTask.client ∨
          stream.fuel rows ≤ moves.countP Move.advances) :=
  System.exists_play_of_run _ timeless

theorem finish_of_leaving
    (leaving : (stream.asked [.ask .cancel]).Leaving StreamTask.client (lastJob worker ending))
    (two : (stream.asked [.ask .cancel]).tasks.length = 2) : stream.finish = some ending := by
  have timeless {moves : List Move} {events : List (Event Row)} {last : System Row StreamTask}
      (played : (stream.asked [.ask .cancel]).play StreamTask.client moves = some (events, last)) :
      last.nextDeadline = none :=
    (leaving.trans (System.Run.start.play played)).nextDeadline_eq_none
  -- First the cancellation runs to its end, and then the producer.
  obtain ⟨moves, events, cancels, quiet, -⟩ :=
    exists_play_of_runUntil ⟨stream.asked [.ask .cancel]⟩ 0 consumerDone
      fun _ _ _ played => timeless played
  obtain ⟨more, rest, joins, calm, outcome⟩ :=
    exists_play_of_runUntil stream.cancel 0 (fun stream => stream.ending?.isSome)
      fun _ _ _ played => timeless (System.play_append cancels played)
  obtain ⟨only, ended, bound⟩ := ends_of_play leaving two (System.play_append cancels joins)
  rcases outcome with stopped | stuck | spent
  · obtain ⟨found, same⟩ := Option.isSome_iff_exists.mp stopped
    rw [← only found same]
    exact same
  · exact (ended stuck).2
  · have length := (System.Run.start.play cancels).length_tasks.trans two
    have enough := lt_fuel stream.cancel length 0
    rw [List.countP_append, List.countP_append, quiet, calm] at bound
    omega

/-- A stream finishes with the ending of its producer, if that has nothing left to do but to give
back the answer to its last call. -/
theorem finishes {reader writer : Task Row StreamTask} {calls : Nat}
    (tasks : stream.system.tasks = [reader, writer])
    (leaves : writer.Leaving StreamTask.client (.producer (.ended ending)) calls) :
    stream.Finishes ending := by
  have leaving := leaving_asked tasks leaves
  have two : (stream.asked [.ask .cancel]).tasks.length = 2 := by
    simp [QueryStream.asked, System.setTask, tasks]
  exact ⟨finish_of_leaving leaving two, fun _ _ _ played => ends_of_play leaving two played⟩

end BindStream.QueryStream
