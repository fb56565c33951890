import Mathlib
import BindStream.Statement.Collection

namespace BindStream

/-! What a statement remembers is what its text resolves to, so that no answer shows whether it
was remembered. -/

/-- What a statement comes to that has this text, or none. -/
def resolveText : Option String → Except ResolveError (List Parameter)
  | none => .error .noExpression
  | some text => resolve text

namespace Statement

variable {statement : Statement}

/-- A statement remembers nothing but what the text it now has resolves to. -/
def Coherent (statement : Statement) : Prop :=
  ∀ known, statement.known = some known → resolveText statement.text = .ok known

theorem coherent_unset : unset.Coherent := nofun

theorem coherent_ofText (text : String) : (ofText text).Coherent := nofun

theorem parameters_of_unknown (text : Option String) :
    parameters ⟨text, none⟩ = (resolveText text, ⟨text, (resolveText text).toOption⟩) := by
  cases text with
  | none => rfl
  | some text =>
      simp only [parameters, resolveText]
      cases resolve text <;> rfl

theorem text_parameters (statement : Statement) :
    statement.parameters.2.text = statement.text := by
  obtain ⟨text, known⟩ := statement
  cases known with
  | none => rw [parameters_of_unknown]
  | some known => rfl

theorem Coherent.result (coherent : statement.Coherent) :
    statement.parameters.1 = resolveText statement.text := by
  obtain ⟨text, known⟩ := statement
  cases known with
  | none => rw [parameters_of_unknown]
  | some known => exact (coherent known rfl).symm

theorem Coherent.parameters (coherent : statement.Coherent) :
    statement.parameters.2.Coherent := by
  obtain ⟨text, known⟩ := statement
  cases known with
  | none =>
      rw [parameters_of_unknown]
      intro known remembered
      change (resolveText text).toOption = some known at remembered
      change resolveText text = .ok known
      cases resolved : resolveText text with
      | error failure =>
          rw [resolved] at remembered
          cases remembered
      | ok found =>
          rw [resolved] at remembered
          cases remembered
          rfl
  | some known => exact coherent

end Statement

namespace Statements

/-- Requests that have been made, the last one first. -/
abbrev Past := List Request

def Request.creates : Request → Bool
  | .new => true
  | .ofText _ => true
  | .clone => true
  | _ => false

namespace Past

/-- How many statements there are: the requests begin with one. -/
def count (past : Past) : Nat := past.countP Request.creates + 1

/-- The number of the statement that the next request is about. -/
def current : Past → Nat
  | [] => 0
  | .select index :: _ => index
  | request :: past => if request.creates then count past else current past

/-- The text that was last set on the statement of a number, or that its original had when it
was cloned. -/
def text? : Past → Nat → Option String
  | [], _ => none
  | .ofText text :: past, index =>
    if index = count past then some text else text? past index
  | .clone :: past, index =>
    if index = count past then text? past (current past) else text? past index
  | .set text :: past, index =>
    if index = current past ∧ index < count past then some text else text? past index
  | _ :: past, index => text? past index

def currentText? (past : Past) : Option String := past.text? past.current

/-- The answer to a request without anything remembered. -/
def reply (past : Past) : Request → Reply
  | .new => .index past.count
  | .ofText _ => .index past.count
  | .clone => .index past.count
  | .select index => .index index
  | .set _ => .done
  | .text => .text past.currentText?
  | .count => .count (past.currentText?.elim 0 countMarkers)
  | .parameters => .parameters (resolveText past.currentText?)
  | .columns => .columns ((resolveText past.currentText?).map (·.map Parameter.column))
  | .bind values =>
    .bound ((resolveText past.currentText?).mapError .unresolved >>= fun parameters =>
      pairValues parameters (values.map toValue))

def replies (past : Past) : List Request → List Reply
  | [] => []
  | request :: requests => past.reply request :: replies (request :: past) requests

theorem count_of_creates {request : Request} (creates : request.creates = true) (past : Past) :
    count (request :: past) = past.count + 1 :=
  congrArg (· + 1) (List.countP_cons_of_pos creates)

theorem count_of_not_creates {request : Request} (keeps : request.creates = false) (past : Past) :
    count (request :: past) = past.count :=
  congrArg (· + 1) (List.countP_cons_of_neg (Bool.eq_false_iff.mp keeps))

theorem current_of_creates {request : Request} (creates : request.creates = true) (past : Past) :
    current (request :: past) = past.count := by
  cases request with
  | select index => cases creates
  | _ => exact if_pos creates

end Past

/-- The statements after some requests. -/
def run (statements : Statements) (requests : List Request) : Statements :=
  requests.foldl (fun statements request => (statements.answer request).2) statements

/-- Statements that have come of some requests. -/
structure Records (past : Past) (statements : Statements) : Prop where
  count : statements.all.length = past.count
  current : statements.current = past.current
  texts : ∀ index, statements.all[index]?.bind Statement.text = past.text? index
  coherent : ∀ statement ∈ statements.all, statement.Coherent

namespace Records

variable {past : Past} {statements : Statements} {request : Request} {statement : Statement}

theorem text_get (records : Records past statements) :
    statements.get.text = past.currentText? := by
  rw [Past.currentText?, ← records.texts, ← records.current, get, List.getD_eq_getElem?_getD]
  cases statements.all[statements.current]? <;> rfl

theorem coherent_get (records : Records past statements) : statements.get.Coherent := by
  rw [get, List.getD_eq_getElem?_getD]
  cases found : statements.all[statements.current]? with
  | none => exact Statement.coherent_unset
  | some statement => exact records.coherent statement (List.mem_of_getElem? found)

theorem texts_put (records : Records past statements) (statement : Statement) (index : Nat) :
    (statements.put statement).all[index]?.bind Statement.text =
      if index = past.current ∧ index < past.count then statement.text
      else past.text? index := by
  rw [← records.texts, ← records.current, ← records.count, put]
  dsimp only
  rw [List.getElem?_set]
  by_cases same : statements.current = index
  · subst same
    by_cases inside : statements.current < statements.all.length
    · simp [inside]
    · simp [inside]
  · rw [if_neg same, if_neg fun both => same both.1.symm]

theorem add (records : Records past statements) (creates : request.creates = true)
    (coherent : statement.Coherent)
    (texts : ∀ index, Past.text? (request :: past) index =
      if index = past.count then statement.text else past.text? index) :
    (statements.add statement).1 = .index past.count ∧
      Records (request :: past) (statements.add statement).2 := by
  refine ⟨congrArg Reply.index records.count, ?_, ?_, ?_, ?_⟩
  · rw [Past.count_of_creates creates, ← records.count]
    exact List.length_append
  · rw [Past.current_of_creates creates, ← records.count]
    rfl
  · intro index
    rw [texts, ← records.count, ← records.texts]
    change (statements.all ++ [statement])[index]?.bind Statement.text = _
    rcases Nat.lt_trichotomy index statements.all.length with inside | rfl | beyond
    · rw [List.getElem?_append_left inside, if_neg (Nat.ne_of_lt inside)]
    · rw [List.getElem?_concat_length, if_pos rfl]
      rfl
    · have outside : (statements.all ++ [statement])[index]? = none := by
        rw [List.getElem?_eq_none_iff, List.length_append, List.length_singleton]
        exact beyond
      rw [outside, if_neg (Nat.ne_of_gt beyond),
        List.getElem?_eq_none_iff.mpr (Nat.le_of_lt beyond)]
  · intro other member
    rcases List.mem_append.mp member with listed | new
    · exact records.coherent other listed
    · rw [List.mem_singleton.mp new]
      exact coherent

/-- A request that changes nothing. -/
theorem keep (records : Records past statements) (keeps : request.creates = false)
    (current : Past.current (request :: past) = past.current)
    (texts : ∀ index, Past.text? (request :: past) index = past.text? index) :
    Records (request :: past) statements where
  count := by rw [Past.count_of_not_creates keeps, records.count]
  current := records.current.trans current.symm
  texts := fun index => (records.texts index).trans (texts index).symm
  coherent := records.coherent

/-- A request that changes no more than the current statement. -/
theorem put (records : Records past statements) (keeps : request.creates = false)
    (current : Past.current (request :: past) = past.current) (coherent : statement.Coherent)
    (texts : ∀ index, Past.text? (request :: past) index =
      if index = past.current ∧ index < past.count then statement.text else past.text? index) :
    Records (request :: past) (statements.put statement) where
  count := by
    rw [Past.count_of_not_creates keeps, ← records.count]
    exact List.length_set
  current := records.current.trans current.symm
  texts := fun index => (records.texts_put statement index).trans (texts index).symm
  coherent := by
    intro other member
    rcases List.mem_or_eq_of_mem_set member with listed | rfl
    · exact records.coherent other listed
    · exact coherent

/-- A question to the current statement. -/
theorem ask {α : Type} {question : Statement → α × Statement} {reply : α → Reply}
    (records : Records past statements) (keeps : request.creates = false)
    (current : Past.current (request :: past) = past.current)
    (texts : ∀ index, Past.text? (request :: past) index = past.text? index)
    (asks : ∀ statement, (question statement).2 = statement.parameters.2) :
    Records (request :: past) (statements.ask question reply).2 := by
  have answered : (statements.ask question reply).2 =
      statements.put statements.get.parameters.2 := congrArg statements.put (asks _)
  rw [answered]
  refine records.put keeps current records.coherent_get.parameters fun index => ?_
  rw [texts, Statement.text_parameters, records.text_get]
  split
  · next both => rw [both.1, Past.currentText?]
  · rfl

theorem answer (records : Records past statements) (request : Request) :
    (statements.answer request).1 = past.reply request ∧
      Records (request :: past) (statements.answer request).2 := by
  have result : statements.get.parameters.1 = resolveText past.currentText? :=
    records.coherent_get.result.trans (congrArg resolveText records.text_get)
  cases request with
  | new =>
      refine records.add rfl Statement.coherent_unset fun index => ?_
      change past.text? index = if index = past.count then none else past.text? index
      split
      · next new =>
          rw [← records.texts, new, ← records.count, List.getElem?_eq_none_iff.mpr (Nat.le_refl _)]
          rfl
      · rfl
  | ofText text => exact records.add rfl (Statement.coherent_ofText text) fun _ => rfl
  | clone =>
      refine records.add rfl records.coherent_get fun index => ?_
      rw [records.text_get]
      rfl
  | select index =>
      refine ⟨rfl, ?_, rfl, records.texts, records.coherent⟩
      exact records.count.trans (Past.count_of_not_creates rfl past).symm
  | set text =>
      exact ⟨rfl, records.put rfl rfl (Statement.coherent_ofText text) fun _ => rfl⟩
  | text => exact ⟨congrArg Reply.text records.text_get, records.keep rfl rfl fun _ => rfl⟩
  | count =>
      refine ⟨?_, records.keep rfl rfl fun _ => rfl⟩
      exact congrArg (fun text => Reply.count (text.elim 0 countMarkers)) records.text_get
  | parameters =>
      exact ⟨congrArg Reply.parameters result, records.ask rfl rfl (fun _ => rfl) fun _ => rfl⟩
  | columns =>
      refine ⟨?_, records.ask rfl rfl (fun _ => rfl) fun _ => rfl⟩
      exact congrArg (fun result => Reply.columns (result.map (·.map Parameter.column))) result
  | bind values =>
      refine ⟨?_, records.ask rfl rfl (fun _ => rfl) fun _ => rfl⟩
      exact congrArg (fun result => Reply.bound (result.mapError .unresolved >>= fun parameters =>
        pairValues parameters (values.map toValue))) result

theorem initial : Records [] .initial where
  count := rfl
  current := rfl
  texts := by
    intro index
    cases index <;> rfl
  coherent := by
    intro statement member
    rw [List.mem_singleton.mp member]
    exact Statement.coherent_unset

theorem answers (records : Records past statements) (requests : List Request) :
    statements.answers requests = past.replies requests := by
  induction requests generalizing past statements with
  | nil => rfl
  | cons request requests ih =>
      obtain ⟨reply, records⟩ := records.answer request
      rw [Statements.answers, Past.replies, ← ih records, ← reply]

end Records

/-! Requests to one statement leave all others as they are. -/

/-- Whether a request may change the current statement, in its text or in what it remembers. -/
def Request.alters : Request → Bool
  | .set _ => true
  | .parameters => true
  | .columns => true
  | .bind _ => true
  | _ => false

/-- The statements that some requests may change, by their numbers. -/
def altered (statements : Statements) : List Request → List Nat
  | [] => []
  | request :: requests =>
    (if request.alters then [statements.current] else []) ++
      altered (statements.answer request).2 requests

theorem getElem?_add {statements : Statements} {index : Nat} (statement : Statement)
    (inside : index < statements.all.length) :
    (statements.add statement).2.all[index]? = statements.all[index]? :=
  List.getElem?_append_left inside

theorem getElem?_put {statements : Statements} {index : Nat} (statement : Statement)
    (other : statements.current ≠ index) :
    (statements.put statement).all[index]? = statements.all[index]? :=
  List.getElem?_set_ne other

theorem getElem?_answer {statements : Statements} {index : Nat} {request : Request}
    (inside : index < statements.all.length)
    (other : request.alters = true → statements.current ≠ index) :
    (statements.answer request).2.all[index]? = statements.all[index]? := by
  cases request with
  | new | ofText | clone => exact getElem?_add _ inside
  | set | parameters | columns | bind => exact getElem?_put _ (other rfl)
  | select | text | count => rfl

theorem getElem?_run {statements : Statements} {index : Nat} {requests : List Request}
    (inside : index < statements.all.length) (spared : index ∉ statements.altered requests) :
    (statements.run requests).all[index]? = statements.all[index]? := by
  induction requests generalizing statements with
  | nil => rfl
  | cons request requests ih =>
      rw [altered, List.mem_append, not_or] at spared
      have kept : (statements.answer request).2.all[index]? = statements.all[index]? := by
        refine getElem?_answer inside fun alters same => spared.1 ?_
        rw [if_pos alters, same]
        exact List.mem_singleton_self index
      have insideToo : index < (statements.answer request).2.all.length := by
        rw [List.getElem?_eq_getElem inside] at kept
        exact (List.getElem?_eq_some_iff.mp kept).1
      exact (ih insideToo spared.2).trans kept

/-- Each answer is what the text last set on the statement, or taken over from its original,
resolves to, as though nothing were remembered; and requests to one statement, be it the clone of
another, change no other one. -/
theorem memory_is_invisible (requests : List Request) :
    Statements.initial.answers requests = Past.replies [] requests ∧
      ∀ (statements : Statements) (later : List Request) (index : Nat),
        index < statements.all.length → index ∉ statements.altered later →
          (statements.run later).all[index]? = statements.all[index]? :=
  ⟨Records.initial.answers requests, fun _ _ _ inside spared => getElem?_run inside spared⟩

theorem memory_is_invisible_in_clone :
    Statements.initial.answers
        [.parameters, .set "a = ?", .columns, .clone, .set "b = '?", .columns, .count,
          .select 0, .columns] =
      [.parameters (.error .noExpression), .done, .columns (.ok ["A"]), .index 1, .done,
        .columns (.error (.unterminatedLiteral ⟨4, 6⟩)), .count 0, .index 0,
        .columns (.ok ["A"])] ∧
    (Statements.run ⟨[.ofText "a = ?", .ofText "a = ?"], 1⟩ [.set "b = ?", .columns]).all[0]? =
      some (.ofText "a = ?") := by
  refine ⟨(memory_is_invisible _).1.trans ?_, ?_⟩
  · cbv
  · exact (memory_is_invisible []).2 ⟨[.ofText "a = ?", .ofText "a = ?"], 1⟩
      [.set "b = ?", .columns] 0 (by decide) (by decide)

end Statements

end BindStream
