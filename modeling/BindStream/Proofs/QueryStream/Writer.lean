import BindStream.Proofs.QueryStream.Delivery
import BindStream.Proofs.QueryStream.Reader

namespace BindStream.QueryStream

/-! The producer of a stream whose consumer only asks for rows: every push succeeds. -/

variable {capacity count : Nat} {script : List Action} {events : List (Event Row)}
variable {system : System Row StreamTask}

/-- A producer that has pushed the first rows of its script, and each with success. -/
structure Writes (script : List Action) (events : List (Event Row)) (producer : Producer) :
    Prop where
  follows : producer.Follows script (events.filterMap (Event.of 1 Event.accepted?))
  requests : ∀ request reply, .completed 1 request reply ∈ events →
    (∃ row, request = .put row none ∧ reply = .stored) ∨ request = .cancel ∧ reply = .done
  calls : (events.filterMap (Event.of 1 Event.reply?)).length =
    (events.filterMap (Event.of 1 Event.accepted?)).length + producer.ending?.toList.length

theorem Writes.others {event : Option (Event Row)} {producer : Producer}
    (writes : Writes script events producer)
    (others : ∀ shown ∈ event, ∀ request reply, shown ≠ .completed 1 request reply) :
    Writes script (events ++ event.toList) producer where
  follows := by
    rw [filterMap_of_others (fun _ => Event.completed_of_accepted?) others]
    exact writes.follows
  requests request reply shown := writes.requests request reply (mem_of_others others shown)
  calls := by
    rw [filterMap_of_others (fun _ => Event.completed_of_accepted?) others,
      filterMap_of_others (fun _ => Event.completed_of_reply?) others]
    exact writes.calls

theorem Writes.answer {channel next : Channel Row} {producer : Producer} {request : Request Row}
    {expired : Bool} {signals : List Signal} {reply : Reply Row}
    (writes : Writes script events producer) (opened : ∀ actions,
      producer = .executing actions → channel.cancelled = false)
    (asks : producer.request = some request) (patient : expired = true → request.within? ≠ none)
    (served : channel.Served expired request next signals reply) :
    Writes script (events ++ [.completed 1 request reply]) (producer.resume reply) := by
  obtain ⟨follows, requests, calls⟩ := writes
  have accepted : (events ++ [Event.completed 1 request reply]).filterMap
      (Event.of 1 Event.accepted?) = events.filterMap (Event.of 1 Event.accepted?) ++
        (Event.completed 1 request reply).accepted?.toList := filterMap_snoc _ _ _
  have replies := length_replies_snoc 1 events request reply
  have requests (own : (∃ row, request = .put row none ∧ reply = .stored) ∨
      request = .cancel ∧ reply = .done) (asked : Request Row) (given : Reply Row)
      (shown : .completed 1 asked given ∈ events ++ [.completed 1 request reply]) :
      (∃ row, asked = .put row none ∧ given = .stored) ∨ asked = .cancel ∧ given = .done := by
    rcases mem_completed_snoc.mp shown with before | ⟨rfl, rfl⟩
    · exact requests asked given before
    · exact own
  cases follows with
  | @executing rest row steady puts goesOn =>
      cases puts.symm.trans asks
      cases served with
      | stored _ room =>
          have later := (Producer.Follows.executing steady puts goesOn).stored puts
          have goesOn := later.ending?_eq_none (Producer.stage_resume rest .stored)
          have before : (Producer.executing rest).ending? = none := rfl
          refine ⟨accepted ▸ later, requests (.inl ⟨row, rfl, rfl⟩), ?_⟩
          rw [accepted, replies, calls, goesOn, before]
          simp [Event.accepted?]
      | putCancelled closed => cases (opened _ rfl).symm.trans closed
      | putTimedOut _ full elapsed => exact absurd rfl (patient elapsed)
      | taken takes | takeCancelled takes => cases takes
  | closing delivers =>
      cases asks
      cases served.reply_of_cancel
      have accepted := accepted.trans (List.append_nil _)
      refine ⟨accepted ▸ .ended delivers, requests (.inr ⟨rfl, rfl⟩), ?_⟩
      rw [accepted, replies, calls]
      rfl
  | ended delivers => cases asks

theorem writes (steady : Action.Steady script)
    (run : System.Run StreamTask.client ((start (.ofNat capacity) script).asked (nextCalls count))
      events system) {task : Task Row StreamTask} (at_1 : system.tasks[1]? = some task) :
    ∃ producer, task.outlook StreamTask.client = .producer producer ∧
      Writes script events producer := by
  rw [asked_start] at run
  refine (run.forall_jobs (motive := fun events channel i job => i = 1 → job.Closes events i ∧
    ∃ producer, job = .producer producer ∧ Writes script events producer) ?_ ?_ at_1 rfl).2
  · rintro i job at_i rfl
    cases at_i
    have stage := Producer.stage_start script
    have follows : Producer.Follows script [] (.start script) :=
      Producer.follows_start steady fun _ _ delivers => delivers
    refine ⟨⟨_, false, rfl, stage, by simp⟩, _, rfl, follows, by simp, ?_⟩
    simp [follows.ending?_eq_none stage]
  · rintro events system next i event old new run before turn rfl
    obtain ⟨closes, producer, rfl, writes⟩ := before rfl
    refine ⟨closes.turn turn, ?_⟩
    cases turn with
    | others others moved => exact ⟨producer, rfl, writes.others others⟩
    | answer asks patient served =>
        refine ⟨_, rfl, writes.answer (fun actions executes => ?_) asks patient served⟩
        -- Only this producer cancels the channel, and it does so behind its last push.
        cases closed : system.channel.cancelled with
        | false => rfl
        | true =>
            obtain ⟨_, _, ⟨⟩, stage, told⟩ := closes
            subst executes
            cases stage
            cases told.mpr (closed_by_producer run closed)

end BindStream.QueryStream
