import BindStream.Proofs.Resolver.Markers
import BindStream.Proofs.Statement.Memory
import BindStream.QueryStream.Basic

namespace BindStream

/-! Values bind to markers by position, all of them or none. -/

section

variable {parameters : List Parameter} {values : List Value} {bound : List BoundValue}
variable {failure : BindError}

/-- No value and no marker is left over. -/
theorem pairValues_eq_ok_iff :
    pairValues parameters values = .ok bound ↔
      bound.map BoundValue.parameter = parameters ∧ bound.map BoundValue.value = values := by
  unfold pairValues
  constructor
  · intro paired
    split at paired
    · next lengths =>
        cases paired
        rw [← List.map_uncurry_zip_eq_zipWith, List.map_map, List.map_map]
        exact ⟨List.map_fst_zip lengths.le, List.map_snd_zip lengths.ge⟩
    · cases paired
  · rintro ⟨rfl, rfl⟩
    rw [List.length_map, List.length_map, if_pos rfl, List.zipWith_map, List.zipWith_self,
      List.map_id']

theorem pairValues_eq_error_iff :
    pairValues parameters values = .error failure ↔
      parameters.length ≠ values.length ∧
        failure = .arityMismatch parameters.length values.length := by
  unfold pairValues
  split
  · next lengths => simp [lengths]
  · next lengths => simp [lengths, eq_comm]

end

namespace Statement

/-- The statements that there can be: made without a text or with one, and put to use. -/
inductive Arises : Statement → Prop
  | unset : Arises unset
  | ofText (text : String) : Arises (ofText text)
  | setText {statement : Statement} (made : Arises statement) (text : String) :
      Arises (statement.setText text)
  | parameters {statement : Statement} (made : Arises statement) : Arises statement.parameters.2
  | columnNames {statement : Statement} (made : Arises statement) :
      Arises statement.columnNames.2
  | bind {α : Type} [ToValue α] {statement : Statement} (made : Arises statement)
      (values : List α) : Arises (statement.bind values).2

variable {α : Type} [ToValue α] {statement : Statement} {values : List α}
variable {parameters : List Parameter}

theorem Arises.coherent (made : statement.Arises) : statement.Coherent := by
  induction made with
  | unset => exact coherent_unset
  | ofText text => exact coherent_ofText text
  | setText made text ih => exact coherent_ofText text
  | parameters made ih => exact ih.parameters
  | columnNames made ih => exact ih.parameters
  | bind made values ih => exact ih.parameters

theorem Coherent.bind_result (coherent : statement.Coherent) (values : List α) :
    (statement.bind values).1 =
      (resolveText statement.text).mapError .unresolved >>= fun parameters =>
        pairValues parameters (values.map toValue) := by
  rw [← coherent.result]
  rfl

theorem exists_of_resolveText (resolved : resolveText statement.text = .ok parameters) :
    ∃ text, statement.text = some text ∧ resolve text = .ok parameters := by
  cases known : statement.text with
  | none =>
      rw [known] at resolved
      cases resolved
  | some text =>
      rw [known] at resolved
      exact ⟨text, rfl, resolved⟩

/-- The markers that are counted are those that parameters are made of. -/
theorem length_of_resolveText (resolved : resolveText statement.text = .ok parameters) :
    parameters.length = statement.countMarkers := by
  obtain ⟨text, known, resolved⟩ := exists_of_resolveText resolved
  have spans := congrArg List.length (map_span_of_resolve resolved)
  rw [List.length_map, List.length_map, length_markers] at spans
  rw [countMarkers, known]
  exact spans

theorem Coherent.bind_of_unresolved (coherent : statement.Coherent) {cause : ResolveError}
    (unresolved : resolveText statement.text = .error cause) (values : List α) :
    (statement.bind values).1 = .error (.unresolved cause) := by
  rw [coherent.bind_result, unresolved]
  rfl

theorem Coherent.bind_of_resolved (coherent : statement.Coherent)
    (resolved : resolveText statement.text = .ok parameters) (values : List α) :
    (statement.bind values).1 = pairValues parameters (values.map toValue) := by
  rw [coherent.bind_result, resolved]
  rfl

theorem Coherent.bind_eq_ok_iff (coherent : statement.Coherent) {bound : List BoundValue} :
    (statement.bind values).1 = .ok bound ↔
      resolveText statement.text = .ok (bound.map BoundValue.parameter) ∧
        bound.map BoundValue.value = values.map toValue := by
  cases resolved : resolveText statement.text with
  | error cause =>
      rw [coherent.bind_of_unresolved resolved]
      exact ⟨nofun, nofun⟩
  | ok parameters =>
      rw [coherent.bind_of_resolved resolved, pairValues_eq_ok_iff, Except.ok.injEq]
      exact and_congr_left' eq_comm

theorem Coherent.bind_of_arity (coherent : statement.Coherent)
    (resolved : resolveText statement.text = .ok parameters)
    (other : values.length ≠ statement.countMarkers) :
    (statement.bind values).1 =
      .error (.arityMismatch statement.countMarkers values.length) := by
  have lengths := length_of_resolveText resolved
  rw [coherent.bind_of_resolved resolved, pairValues_eq_error_iff, List.length_map, lengths]
  exact ⟨other.symm, rfl⟩

theorem Coherent.exists_bound_iff (coherent : statement.Coherent) :
    (∃ bound, (statement.bind values).1 = .ok bound) ↔
      (∃ parameters, resolveText statement.text = .ok parameters) ∧
        values.length = statement.countMarkers := by
  constructor
  · rintro ⟨bound, binds⟩
    obtain ⟨resolved, converted⟩ := coherent.bind_eq_ok_iff.mp binds
    refine ⟨⟨_, resolved⟩, ?_⟩
    have lengths := congrArg List.length converted
    rw [List.length_map, List.length_map] at lengths
    rw [← length_of_resolveText resolved, List.length_map, lengths]
  · rintro ⟨⟨parameters, resolved⟩, lengths⟩
    rw [coherent.bind_of_resolved resolved, pairValues, List.length_map, lengths,
      length_of_resolveText resolved, if_pos rfl]
    exact ⟨_, rfl⟩

/-- The entry at each place is made of the marker and the value at that place. -/
theorem Coherent.entry (coherent : statement.Coherent) {bound : List BoundValue}
    (binds : (statement.bind values).1 = .ok bound) {text : String}
    (known : statement.text = some text) {i : Nat} {entry : BoundValue}
    (at_i : bound[i]? = some entry) :
    entry.parameter.ordinal = i ∧
      (markers text)[i]?.map Token.span = some entry.parameter.span ∧
      values[i]?.map toValue = some entry.value := by
  obtain ⟨resolved, converted⟩ := coherent.bind_eq_ok_iff.mp binds
  rw [known] at resolved
  have places := congrArg (·[i]?) (resolve_places resolved)
  have values := congrArg (·[i]?) converted
  simp only [List.getElem?_map, at_i, Option.map_some] at places values
  rw [markerPlaces_getElem?] at places
  obtain ⟨marker, marked, place⟩ := Option.map_eq_some_iff.mp places.symm
  obtain ⟨ordinal, span⟩ := Prod.mk.inj place
  refine ⟨ordinal.symm, ?_, values.symm⟩
  rw [markers, marked, Option.map_some, span]

end Statement

namespace QueryStream

variable {α : Type} [ToValue α] {statement : Statement} {values : List α}

theorem spawn_eq_error_iff (executor : Executor) (capacity : Nat) {failure : BindError} :
    spawn executor statement values capacity = .error failure ↔
      (statement.bind values).1 = .error failure := by
  unfold spawn
  cases (statement.bind values).1 with
  | error cause =>
      constructor
      · intro refused
        cases refused
        rfl
      · intro refused
        cases refused
        rfl
  | ok bound => exact ⟨nofun, nofun⟩

theorem spawn_of_bound (executor : Executor) (capacity : Nat) {bound : List BoundValue}
    (binds : (statement.bind values).1 = .ok bound) {text : String}
    (known : statement.text = some text) :
    spawn executor statement values capacity =
      .ok (start (.ofNat capacity) (executor text bound)) := by
  rw [spawn, binds, known]
  rfl

end QueryStream

/-- Values bind to a statement exactly if its text resolves and there are as many as it has markers,
each value to the marker at its place. A text that does not resolve is refused as it is without
values, whatever their number, and else a wrong number is. A stream is refused for the same, and
its executor is given the text and what the values are bound to. -/
theorem bind_is_positional {α : Type} [ToValue α] {statement : Statement}
    (made : statement.Arises) (values : List α) :
    ((∃ bound, (statement.bind values).1 = .ok bound) ↔
      (∃ parameters, resolveText statement.text = .ok parameters) ∧
        values.length = statement.countMarkers) ∧
    (∀ bound, (statement.bind values).1 = .ok bound →
      ∃ text, statement.text = some text ∧
        resolve text = .ok (bound.map BoundValue.parameter) ∧
        bound.length = countMarkers text ∧
        (∀ (i : Nat) (entry : BoundValue), bound[i]? = some entry →
          entry.parameter.ordinal = i ∧
            (markers text)[i]?.map Token.span = some entry.parameter.span ∧
            values[i]?.map toValue = some entry.value) ∧
        ∀ executor capacity, QueryStream.spawn executor statement values capacity =
          .ok (.start (.ofNat capacity) (executor text bound))) ∧
    (∀ cause, resolveText statement.text = .error cause →
      (statement.bind values).1 = .error (.unresolved cause)) ∧
    (∀ parameters, resolveText statement.text = .ok parameters →
      values.length ≠ statement.countMarkers →
        (statement.bind values).1 =
          .error (.arityMismatch statement.countMarkers values.length)) ∧
    ∀ executor capacity failure,
      QueryStream.spawn executor statement values capacity = .error failure ↔
        (statement.bind values).1 = .error failure := by
  have coherent := made.coherent
  refine ⟨coherent.exists_bound_iff, fun bound binds => ?_,
    fun cause unresolved => coherent.bind_of_unresolved unresolved values,
    fun parameters resolved other => coherent.bind_of_arity resolved other,
    fun executor capacity failure => QueryStream.spawn_eq_error_iff executor capacity⟩
  obtain ⟨resolved, -⟩ := coherent.bind_eq_ok_iff.mp binds
  obtain ⟨text, known, resolvedText⟩ := Statement.exists_of_resolveText resolved
  refine ⟨text, known, resolvedText, ?_, fun i entry => coherent.entry binds known,
    fun executor capacity => QueryStream.spawn_of_bound executor capacity binds known⟩
  have counted := Statement.length_of_resolveText resolved
  rw [List.length_map, Statement.countMarkers, known] at counted
  exact counted

/-- A statement that remembers its parameters, and what it comes to with a quote left open. -/
theorem bind_is_positional_when_remembered :
    (∃ statement : Statement, statement.Arises ∧ statement.known ≠ none ∧
      (∃ bound, (statement.bind ["x", "y"]).1 = .ok bound ∧
        bound.length = countMarkers "a = ? AND b = ?") ∧
      (statement.bind ["x"]).1 = .error (.arityMismatch 2 1)) ∧
    ((Statement.ofText "a = '?").bind ["x"]).1 =
      .error (.unresolved (.unterminatedLiteral ⟨4, 6⟩)) := by
  have resolved : resolve "a = ? AND b = ?" =
      .ok [⟨0, "A", ⟨4, 5⟩⟩, ⟨1, "B", ⟨14, 15⟩⟩] := by
    cbv
  have counted : countMarkers "a = ? AND b = ?" = 2 := by
    cbv
  have failed : resolve "a = '?" = .error (.unterminatedLiteral ⟨4, 6⟩) := by
    cbv
  have asked : (Statement.ofText "a = ? AND b = ?").parameters.2 =
      ⟨some "a = ? AND b = ?", some [⟨0, "A", ⟨4, 5⟩⟩, ⟨1, "B", ⟨14, 15⟩⟩]⟩ := by
    rw [Statement.ofText, Statement.parameters_of_unknown, resolveText, resolved]
    rfl
  have made := (Statement.Arises.ofText "a = ? AND b = ?").parameters
  rw [asked] at made
  obtain ⟨bound, binds⟩ := (bind_is_positional made ["x", "y"]).1.mpr ⟨⟨_, resolved⟩, counted.symm⟩
  obtain ⟨text, ⟨⟩, -, length, -⟩ := (bind_is_positional made ["x", "y"]).2.1 bound binds
  have short := (bind_is_positional made ["x"]).2.2.2.1 _ resolved
  rw [Statement.countMarkers, Option.elim_some, counted] at short
  refine ⟨⟨_, made, Option.some_ne_none _, ⟨bound, binds, length⟩, short (by decide)⟩, ?_⟩
  exact (bind_is_positional (.ofText "a = '?") ["x"]).2.2.1 _ failed

end BindStream
