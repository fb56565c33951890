import BindStream.Proofs.Channel.Draining
import BindStream.Proofs.Channel.Lookahead
import Mathlib.Data.List.Induction

namespace BindStream

/-! The end of the rows, as cursors report it: only where no row is left and none can come, and
then for good. -/

variable {ρ σ : Type}

/-- No row is left in a channel, and none can come. -/
def Channel.Drained (channel : Channel ρ) : Prop :=
  channel.cancelled = true ∧ channel.queue = []

theorem Channel.Served.of_take {channel next : Channel ρ} {expired : Bool} {within : Option Nat}
    {signals : List Signal} {reply : Reply ρ}
    (served : channel.Served expired (.take within) next signals reply) :
    (∃ row, reply = .row row ∧ ¬channel.Drained) ∨
      (reply = .failed .cancelled ∧ channel.Drained) ∨
        reply = .failed .timedOut ∧ expired = true ∧ ¬channel.Drained := by
  cases served with
  | taken takes oldest =>
      exact .inl ⟨_, rfl, fun drained => List.cons_ne_nil _ _ (oldest.symm.trans drained.2)⟩
  | takeCancelled takes empty closed => exact .inr (.inl ⟨rfl, closed, empty⟩)
  | takeTimedOut empty opened elapsed =>
      exact .inr (.inr ⟨rfl, elapsed, fun drained => by cases opened.symm.trans drained.1⟩)

/-- What a call to take a row gets from a channel without any, and at once. -/
theorem Call.enter_of_drained {call : Call ρ} {channel : Channel ρ} (drained : channel.Drained)
    (takes : call.request.takes = true) (wake : Wake) (clock : Nat) :
    call.enter channel wake clock = .reply channel [] (.failed .cancelled) := by
  have attempted (expired : Bool) :
      channel.attempt call.request expired = .reply channel [] (.failed .cancelled) := by
    cases asked : call.request with
    | take within => simp only [Channel.attempt, Channel.take, drained.1, drained.2, if_true]
    | tryTake => simp only [Channel.attempt, Channel.tryTake, drained.1, drained.2, if_true]
    | put | cancel | inspect =>
        rw [asked] at takes
        cases takes
  rw [Call.enter, attempted]

namespace Cursor

/-- The answer by which a query reports that there are no more rows. -/
def ended : Query → Answer ρ
  | .hasNext _ => .flag false
  | .peek => .row none
  | .next => .row none
  | .nextRow => .failed .cancelled

theorem present_ne_ended (row : ρ) (query : Query) : (present row query).1 ≠ ended query := by
  cases query <;> simp [present, ended]

/-- Without a time limit a take fails for a cancellation only, so that to leave out the cause of
the failure leaves out nothing. -/
theorem receive_eq_ended_iff {channel next : Channel ρ} {expired : Bool} {query : Query}
    {signals : List Signal} {reply : Reply ρ}
    (patient : expired = true → (request query : Request ρ).within? ≠ none)
    (served : channel.Served expired (request query) next signals reply) :
    (receive query reply).1 = ended query ↔ channel.Drained := by
  obtain ⟨within, asked⟩ : ∃ within, (request query : Request ρ) = .take within := by
    cases query <;> exact ⟨_, rfl⟩
  rw [asked] at served
  rcases served.of_take with ⟨row, rfl, left⟩ | ⟨rfl, drained⟩ | ⟨rfl, elapsed, left⟩
  · exact iff_of_false (present_ne_ended row query) left
  · refine iff_of_true ?_ drained
    cases query with
    | hasNext within => cases within <;> rfl
    | _ => rfl
  · refine iff_of_false ?_ left
    have limited := patient elapsed
    cases query with
    | hasNext within =>
        cases within with
        | none => exact absurd rfl limited
        | some time => simp [receive, miss, ended]
    | _ => exact absurd rfl limited

end Cursor

namespace Act

/-- What an act answers: a cursor, a query and the answer to it. To collect is to ask for the next
row until there is none. -/
def answer? : Act ρ → Option (String × Cursor.Query × Cursor.Answer ρ)
  | answered name query answer _ => some (name, query, answer)
  | began name (some row) => some (name, .next, .row (some row))
  | collected name row => some (name, .next, .row (some row))
  | finished name _ => some (name, .next, .row none)
  | _ => none

variable {act : Act ρ} {before between acts : List (Act ρ)} {name : String}

/-- An empty slot stays empty as long as the cursor reports the end. -/
theorem Follows.slot_of_ended (follows : act.Follows before) (empty : slotAfter name before = none)
    (ends : ∀ query answer, act.answer? = some (name, query, answer) →
      answer = Cursor.ended query) :
    act.slot name none = none := by
  cases act with
  | answered other query answer left =>
      rw [slot]
      split
      · next own =>
          subst own
          cases ends query answer rfl
          rcases follows.answer with ⟨row, presents⟩ | ⟨nothing, -⟩
          · exact absurd (congrArg Prod.fst presents).symm (Cursor.present_ne_ended row query)
          · exact nothing
      · rfl
  | _ => simp [slot]

/-- An act that is shown is the first of those to come, or stands behind it. -/
theorem first_or_later {first : Act ρ} {rest : List (Act ρ)} (acts : List (Act ρ))
    (shown : before ++ [act] <+: first :: rest) :
    (acts ++ before = acts ∧ act = first) ∨
      ∃ later, acts ++ before = acts ++ [first] ++ later ∧ later ++ [act] <+: rest := by
  cases before with
  | nil => exact .inl ⟨List.append_nil acts, (List.cons_prefix_cons.mp shown).1⟩
  | cons other later =>
      obtain ⟨rfl, tail⟩ := List.cons_prefix_cons.mp shown
      exact .inr ⟨later, List.append_cons acts _ later, tail⟩

theorem slotAfter_of_ended
    (follows : ∀ before act, before ++ [act] <+: acts → act.Follows before)
    (empty : slotAfter name before = none) (shown : before ++ between <+: acts)
    (ends : ∀ earlier act query answer, before <+: earlier → earlier ++ [act] <+: acts →
      slotAfter name earlier = none → act.answer? = some (name, query, answer) →
        answer = Cursor.ended query) :
    slotAfter name (before ++ between) = none := by
  induction between using List.reverseRecOn with
  | nil => rwa [List.append_nil]
  | append_singleton between act ih =>
      rw [← List.append_assoc] at shown ⊢
      have still := ih ((List.prefix_append _ _).trans shown)
      rw [slotAfter_snoc, still]
      exact (follows _ _ shown).slot_of_ended still fun query answer =>
        ends _ act query answer (List.prefix_append _ _) shown still

end Act

namespace Worker

variable {worker : Worker ρ} {acts before : List (Act ρ)} {act : Act ρ} {taken : List ρ}
variable {name : String} {query : Cursor.Query} {answer : Cursor.Answer ρ}

/-- A worker that settles answers only from rows in slots. -/
theorem Books.answer_settleActs (books : worker.Books acts taken)
    (operations : List (Operation ρ)) (shown : before ++ [act] <+: worker.settleActs operations)
    (answers : act.answer? = some (name, query, answer)) :
    ∃ row, slotAfter name (acts ++ before) = some row ∧
      answer = (Cursor.present row query).1 := by
  induction operations generalizing worker acts before with
  | nil => exact absurd (List.prefix_nil.mp shown) (by simp)
  | cons operation rest ih =>
      cases operation with
      | ask request => exact absurd (List.prefix_nil.mp shown) (by simp)
      | openCursor opened =>
          rcases Act.first_or_later acts shown with ⟨-, rfl⟩ | ⟨later, split, tail⟩
          · cases answers
          · rw [split]
            exact ih (books.enter_own (entry_opened books.names opened) (books.slots opened)) tail
      | dropCursor dropped =>
          rcases Act.first_or_later acts shown with ⟨-, rfl⟩ | ⟨later, split, tail⟩
          · cases answers
          · rw [split]
            exact ih (books.enter_own (entry_dropped books.names dropped _) (books.slots dropped))
              tail
      | query other asked =>
          unfold settleActs at shown
          cases slot : (worker.cursor other).lookahead with
          | none =>
              rw [Cursor.answer?, slot] at shown
              exact absurd (List.prefix_nil.mp shown) (by simp)
          | some row =>
              rw [Cursor.answer?, slot] at shown
              have held : slotAfter other acts = some row := (books.slots other).symm.trans slot
              rcases Act.first_or_later acts shown with ⟨split, rfl⟩ | ⟨later, split, tail⟩
              · cases answers
                exact ⟨row, split.symm ▸ held, rfl⟩
              · have follows : (Act.answered other asked (Cursor.present row asked).1
                    (Cursor.present row asked).2.lookahead).Follows acts := by
                  rw [Act.Follows, held]
                rw [split]
                exact ih (books.enter_own (entry_presented books.names slot asked) follows) tail
      | collect other =>
          rcases Act.first_or_later acts shown with ⟨split, rfl⟩ | ⟨later, -, tail⟩
          · cases slot : (worker.cursor other).lookahead with
            | none =>
                rw [slot] at answers
                cases answers
            | some row =>
                have held : slotAfter other acts = some row := (books.slots other).symm.trans slot
                rw [slot] at answers
                cases answers
                exact ⟨row, split.symm ▸ held, rfl⟩
          · exact absurd (List.prefix_nil.mp tail) (by simp)

/-- What a worker answers when it is given a reply: from the reply, or from rows in slots. -/
theorem Books.answer_resumeActs (books : worker.Books acts taken) (waits : worker.Waits)
    {request : Request ρ} (asks : worker.request = some request) (reply : Reply ρ)
    (shown : before ++ [act] <+: worker.resumeActs reply)
    (answers : act.answer? = some (name, query, answer)) :
    (∃ row, slotAfter name (acts ++ before) = some row ∧
        answer = (Cursor.present row query).1) ∨
      slotAfter name (acts ++ before) = none ∧ request = Cursor.request query ∧
        answer = (Cursor.receive query reply).1 := by
  -- The first act is made of the reply, and with the others the worker settles.
  unfold resumeActs at shown
  unfold Worker.request at asks
  unfold Waits at waits
  cases todo : worker.todo with
  | nil =>
      rw [todo] at asks
      cases asks
  | cons operation rest =>
      rw [todo] at shown asks waits
      cases operation with
      | ask request =>
          rcases Act.first_or_later acts shown with ⟨-, rfl⟩ | ⟨later, split, tail⟩
          · cases answers
          · have entered := books.enter (entry_asked worker request reply) trivial
            exact .inl (split ▸ entered.answer_settleActs rest tail answers)
      | query other asked =>
          have empty : slotAfter other acts = none := (books.slots other).symm.trans waits
          rcases Act.first_or_later acts shown with ⟨split, rfl⟩ | ⟨later, split, tail⟩
          · cases answers
            exact .inr ⟨split.symm ▸ empty, (Option.some.inj asks).symm, rfl⟩
          · have follows : (Act.answered other asked (Cursor.receive asked reply).1
                (Cursor.receive asked reply).2.lookahead).Follows acts := by
              rw [Act.Follows, empty]
              exact ⟨reply, rfl⟩
            have entered := books.enter (entry_received books.names waits asked reply) follows
            exact .inl (split ▸ entered.answer_settleActs rest tail answers)
      | collect other =>
          have empty : slotAfter other acts = none := (books.slots other).symm.trans waits
          have finished := books.enter_own (entry_finished books.names waits)
            ⟨empty, books.collected⟩
          cases reply with
          | row row =>
              rcases Act.first_or_later acts shown with ⟨split, rfl⟩ | ⟨later, -, tail⟩
              · cases answers
                exact .inr ⟨split.symm ▸ empty, (Option.some.inj asks).symm, rfl⟩
              · exact absurd (List.prefix_nil.mp tail) (by simp)
          | _ =>
              rcases Act.first_or_later acts shown with ⟨split, rfl⟩ | ⟨later, split, tail⟩
              · cases answers
                exact .inr ⟨split.symm ▸ empty, (Option.some.inj asks).symm, rfl⟩
              · exact .inl (split ▸ finished.answer_settleActs rest tail answers)
      | openCursor other => cases asks
      | dropCursor other => cases asks

end Worker

/-- On a cancelled channel nothing puts a task to sleep. -/
theorem Task.Change.awake {client : Client ρ σ} {channel next : Channel ρ} {clock i : Nat}
    {event : Option (Event ρ)} {old new : Task ρ σ}
    (change : Change client channel clock i event next old new)
    (closed : channel.cancelled = true) (awake : old.isAsleep = false) : new.isAsleep = false := by
  cases change with
  | none => exact awake
  | sleep blocked => cases blocked.opened.symm.trans closed
  | _ => rfl

namespace System

section

variable {client : Client ρ σ} {system last : System ρ σ} {events after : List (Event ρ)}

theorem Run.drained (run : Run client system after last) (drained : system.channel.Drained) :
    last.channel.Drained := by
  have drains := run.drains drained.1
  rw [drained.2] at drains
  exact ⟨drains.closed, (List.append_eq_nil_iff.mp drains.taken).2⟩

theorem Run.stays_awake (run : Run client system after last)
    (closed : system.channel.cancelled = true) {i : Nat}
    (awake : ∀ task, system.tasks[i]? = some task → task.isAsleep = false) :
    ∀ task, last.tasks[i]? = some task → task.isAsleep = false := by
  induction run with
  | start => exact awake
  | step run moved ih =>
      intro new at_i
      obtain ⟨old, before, change⟩ := (effect_of_move moved).change at_i
      exact change.awake (run.drains closed).closed (ih old before)

end

variable {capacity : Capacity} {scripts : List (List (Operation ρ))}
variable {events more after : List (Event ρ)} {system next last : System ρ (Worker ρ)}
variable {move : Move} {i : Nat} {name : String} {before : List (Act ρ)} {act : Act ρ}
variable {query : Cursor.Query} {answer : Cursor.Answer ρ}

theorem history_append (scripts : List (List (Operation ρ))) (events more : List (Event ρ))
    (i : Nat) : history scripts events i <+: history scripts (events ++ more) i := by
  rw [history, history, List.filterMap_append]
  induction more.filterMap (Event.of i Event.reply?) using List.reverseRecOn with
  | nil => exact (List.append_nil _).symm ▸ List.prefix_rfl
  | append_singleton replies reply ih =>
      rw [← List.append_assoc, Worker.acts_snoc]
      exact ih.trans (List.prefix_append _ _)

/-- An act that a step adds to a task's history is one that the task's own request has led to. -/
theorem completed_of_act
    (earlier : history scripts events i <+: before) {event : Option (Event ρ)}
    (shown : before ++ [act] <+: history scripts (events ++ event.toList) i) :
    ∃ request reply, event = some (.completed i request reply) := by
  by_contra others
  have quiet : ∀ shown ∈ event, ∀ request reply, shown ≠ .completed i request reply := by
    rintro shown member request reply rfl
    exact others ⟨request, reply, member⟩
  rw [history, filterMap_of_others (fun _ => Event.completed_of_reply?) quiet] at shown
  have longer := (shown.trans earlier).length_le
  rw [List.length_append] at longer
  exact Nat.not_succ_le_self _ longer

/-- A query is answered with the end of the rows exactly where the slot is empty and the channel
has none and gets none. -/
theorem Run.answer_eq_ended_iff
    (run : Run Worker.client (initial capacity (scripts.map Worker.start)) events system)
    (moved : system.move Worker.client move = some next)
    (earlier : history scripts events i <+: before)
    (shown : before ++ [act] <+:
      history scripts (events ++ (system.event? Worker.client move).toList) i)
    (answers : act.answer? = some (name, query, answer)) :
    answer = Cursor.ended query ↔ slotAfter name before = none ∧ system.channel.Drained := by
  have effect := effect_of_move moved
  obtain ⟨request, reply, completes⟩ := completed_of_act earlier shown
  rw [completes] at effect shown
  cases effect with
  | @complete _ worker call wake channel signals _ at_i answered =>
      have consumes := run.consumes at_i
      have asks := run.asks at_i
      obtain ⟨expired, late, served⟩ := Call.served_of_enter answered
      have patient : expired = true → call.request.within? ≠ none := by
        refine fun elapsed => asks.2 ((late elapsed).imp_right fun due unlimited => ?_)
        rw [unlimited] at due
        cases due
      have replied : Event.of i Event.reply? (.completed i call.request reply) = some reply := by
        simp [Event.of, Event.task, Event.reply?]
      rw [history, Option.toList_some, filterMap_snoc, replied, Option.toList_some,
        Worker.acts_snoc, ← consumes.follows] at shown
      obtain ⟨own, rfl⟩ := earlier
      rw [List.append_assoc, history, List.prefix_append_right_inj] at shown
      rcases consumes.books.answer_resumeActs consumes.waits asks.1 reply shown answers with
        ⟨row, held, rfl⟩ | ⟨empty, requested, rfl⟩
      · refine iff_of_false (Cursor.present_ne_ended row query) fun ends => ?_
        exact Option.some_ne_none row (held.symm.trans ends.1)
      · rw [requested] at served patient
        rw [Cursor.receive_eq_ended_iff patient served]
        exact (and_iff_right empty).symm

/-- Once the channel is drained, a cursor without a row answers every query with the end. -/
theorem Run.ended_of_drained
    (run : Run Worker.client (initial capacity (scripts.map Worker.start)) events system)
    (drained : system.channel.Drained) (later : Run Worker.client system after last)
    (earlier : history scripts events i <+: before)
    (shown : before ++ [act] <+: history scripts (events ++ after) i)
    (empty : slotAfter name before = none)
    (answers : act.answer? = some (name, query, answer)) : answer = Cursor.ended query := by
  induction later with
  | start =>
      rw [List.append_nil] at shown
      have longer := (shown.trans earlier).length_le
      rw [List.length_append] at longer
      exact absurd longer (Nat.not_succ_le_self _)
  | @step after middle next move later moved ih =>
      rw [← List.append_assoc] at shown
      have grown := history_append scripts (events ++ after)
        (middle.event? Worker.client move).toList i
      rcases List.prefix_or_prefix_of_prefix shown grown with known | new
      · exact ih known
      · rcases List.prefix_concat_iff.mp new with same | new
        · exact ih (same ▸ List.prefix_rfl)
        · exact ((run.trans later).answer_eq_ended_iff moved new shown answers).mpr
            ⟨empty, later.drained drained⟩

/-- Whichever answer a step leads to: it reports the end of the rows exactly where the cursor's slot
is empty and the channel is cancelled with no row in it. Then all later answers through the cursor
report the end as well, and the task gets them without waiting. -/
theorem end_of_rows_is_final
    (run : Run Worker.client (initial capacity (scripts.map Worker.start)) events system)
    (moved : system.move Worker.client move = some next)
    (later : Run Worker.client next after last) (earlier : history scripts events i <+: before)
    (shown : before ++ [act] <+:
      history scripts (events ++ (system.event? Worker.client move).toList) i)
    (answers : act.answer? = some (name, query, answer)) :
    (answer = Cursor.ended query ↔
      slotAfter name before = none ∧ system.channel.cancelled = true ∧
        system.channel.queue = []) ∧
    (answer = Cursor.ended query →
      (last.channel.cancelled = true ∧ last.channel.queue = []) ∧
      (∀ between other following given,
        before ++ act :: between ++ [other] <+:
            history scripts (events ++ (system.event? Worker.client move).toList ++ after) i →
          other.answer? = some (name, following, given) → given = Cursor.ended following) ∧
      ∀ task, last.tasks[i]? = some task →
        task.isAsleep = false ∧
        (∀ call wake, task.phase = .entering call wake → call.request.takes = true →
          call.enter last.channel wake last.clock =
            .reply last.channel [] (.failed .cancelled)) ∧
        (task.hasEnded Worker.client = false →
          ∃ sleeper following, last.advance Worker.client i sleeper = some following)) := by
  have exactly := run.answer_eq_ended_iff moved earlier shown answers
  refine ⟨exactly, fun ends => ?_⟩
  obtain ⟨empty, drained⟩ := exactly.mp ends
  -- The step itself is the first of those on the drained channel.
  have onward := (Run.start.step moved).trans later
  rw [List.nil_append] at onward
  have whole := run.trans onward
  obtain ⟨request, reply, completes⟩ := completed_of_act earlier shown
  have effect := effect_of_move moved
  refine ⟨onward.drained drained, ?_, ?_⟩
  · intro between other following given grown answers
    rw [List.append_assoc events] at grown
    have inRange : i < last.tasks.length := by
      rw [onward.length_tasks]
      rw [completes] at effect
      exact effect.task_lt rfl
    have follows := (whole.consumes (List.getElem?_eq_getElem inRange)).books.follows
    have still : slotAfter name (before ++ act :: between) = none := by
      refine Act.slotAfter_of_ended follows empty ((List.prefix_append _ _).trans grown) ?_
      intro known first query answer begins shown empty answers
      exact run.ended_of_drained drained onward (earlier.trans begins) shown empty answers
    exact run.ended_of_drained drained onward (earlier.trans (List.prefix_append _ _)) grown still
      answers
  · intro task at_i
    have awake : task.isAsleep = false := by
      refine onward.stays_awake drained.1 (fun old at_old => ?_) task at_i
      rw [completes] at effect
      cases effect with
      | complete at_i answered =>
          cases at_old.symm.trans at_i
          rfl
    refine ⟨awake, fun call wake _ takes => ?_, exists_advance at_i awake⟩
    exact Call.enter_of_drained (onward.drained drained) takes wake _

/-! A cursor that waits for another row when the channel is cancelled. -/

def watching : List (List (Operation Nat)) :=
  [[.ask (.put 1 none), .ask .cancel, .ask (.put 2 none)],
    [.openCursor "a", .query "a" (.hasNext none), .query "a" .next, .query "a" .peek,
      .query "a" (.hasNext (some 5)), .query "a" .nextRow, .collect "a"]]

def untilWoken : List Move :=
  List.replicate 4 (.advance 0 none) ++ List.replicate 6 (.advance 1 none) ++
    List.replicate 5 (.advance 0 none)

/-- The producer has cancelled, and the consumer is about to look at the channel again. -/
def justWoken : System Nat (Worker Nat) :=
  (((initial (.ofNat 1) (watching.map Worker.start)).play Worker.client untilWoken).map
    Prod.snd).getD (initial (.ofNat 1) [])

def justReported : System Nat (Worker Nat) :=
  (justWoken.move Worker.client (.advance 1 none)).getD justWoken

def sinceReported : List Move :=
  .advance 1 none :: List.replicate 3 (.advance 0 none) ++ List.replicate 9 (.advance 1 none)

def beforeEnd : List (Act Nat) :=
  [.opened "a" none, .answered "a" (.hasNext none) (.flag true) (some 1),
    .answered "a" .next (.row (some 1)) none]

def behindEnd : List (Act Nat) :=
  [.answered "a" (.hasNext (some 5)) (.flag false) none,
    .answered "a" .nextRow (.failed .cancelled) none, .began "a" none, .finished "a" []]

theorem end_of_rows_is_final_behind_wait :
    ∃ events after last,
      Run Worker.client (initial (.ofNat 1) (watching.map Worker.start)) events justWoken ∧
      justWoken.move Worker.client (.advance 1 none) = some justReported ∧
      Run Worker.client justReported after last ∧
      history watching events 1 = beforeEnd ∧
      (slotAfter "a" beforeEnd = none ∧ justWoken.channel.cancelled = true ∧
        justWoken.channel.queue = []) ∧
      last.channel.queue = [] ∧
      history watching
          (events ++ (justWoken.event? Worker.client (.advance 1 none)).toList ++ after) 1 =
        beforeEnd ++ .answered "a" .peek (.row none) none :: behindEnd ∧
      ∀ between other following given,
        beforeEnd ++ .answered "a" .peek (.row none) none :: between ++ [other] <+:
            beforeEnd ++ .answered "a" .peek (.row none) none :: behindEnd →
          other.answer? = some ("a", following, given) → given = Cursor.ended following := by
  have moved : justWoken.move Worker.client (.advance 1 none) = some justReported := rfl
  obtain ⟨events, after, last, run, later, known, reported, whole⟩ : ∃ events after last,
      Run Worker.client (initial (.ofNat 1) (watching.map Worker.start)) events justWoken ∧
      Run Worker.client justReported after last ∧
      history watching events 1 = beforeEnd ∧
      history watching
          (events ++ (justWoken.event? Worker.client (.advance 1 none)).toList) 1 =
        beforeEnd ++ [.answered "a" .peek (.row none) none] ∧
      history watching
          (events ++ (justWoken.event? Worker.client (.advance 1 none)).toList ++ after) 1 =
        beforeEnd ++ .answered "a" .peek (.row none) none :: behindEnd := by
    have run := Run.start.play
      (rfl : (initial (.ofNat 1) (watching.map Worker.start)).play Worker.client untilWoken =
        some (_, justWoken))
    have later := Run.start.play
      (rfl : justReported.play Worker.client sinceReported = some (_, _))
    exact ⟨_, _, _, run, later, rfl, rfl, rfl⟩
  have earlier : history watching events 1 <+: beforeEnd := known ▸ List.prefix_rfl
  have answers : (Act.answered "a" .peek (.row none) none : Act Nat).answer? =
      some ("a", .peek, .row none) := rfl
  obtain ⟨reports, final⟩ :=
    end_of_rows_is_final run moved later earlier (reported ▸ List.prefix_rfl) answers
  obtain ⟨drained, again, -⟩ := final rfl
  rw [whole] at again
  exact ⟨events, after, last, run, moved, later, known, reports.mp rfl, drained.2, whole, again⟩

end System

end BindStream
