import Mathlib
import BindStream.Proofs.Predicate.Condition

namespace BindStream

/-! A column between two bounds. The second bound has lost the column if the first one is a
call. -/

structure Range where
  column : Name
  low : Expression
  high : Expression

namespace Range

def lexemes (range : Range) : List Lexeme :=
  range.column.lexeme :: Keyword.BETWEEN.lexeme ::
    (range.low.lexemes ++ Keyword.AND.lexeme :: range.high.lexemes)

def columns (range : Range) : List String :=
  List.replicate (range.low.markers + range.high.markers) range.column.column

/-- No marker stands behind a bound that is a call. -/
def Kept (range : Range) : Prop := range.low.isCall = false ∨ range.high.markers = 0

end Range

namespace Resolver

variable {group : Group} {outer : List Group}

/-- A group that has shown a column and waits for the bounds of a range. -/
def ranging (group : Group) (column : String) : Group :=
  { group.push column with betweenPending := true }

/-- The group behind the `AND` of a range. -/
def ranged (group : Group) : Group := { group with betweenPending := false }

theorem columnIn_of_nearest {column : String} (plain : group.Plain)
    (nearest : group.nearest = some column) :
    columnIn (listed none) (group :: outer) = some column := by
  change columnIn [] (group :: outer) = _
  rw [columnIn, plain.positional, nearest]

theorem turns_and_of_ranging (bound : Expression) (group : Group) (column : String) :
    Turns Keyword.AND.lexeme (bound.leaves (ranging group column))
      (ranged (bound.leaves (ranging group column))) := by
  rw [ranged, ← Group.conjunction_of_pending _ (bound.betweenPending_leaves _)]
  exact turns_and

theorem reads_low (column : Name) (low : Expression) (plain : group.Plain) :
    Reads none outer (· = group) (column.lexeme :: Keyword.BETWEEN.lexeme :: low.lexemes)
      (List.replicate low.markers column.column)
      (· = low.leaves (ranging group column.column)) := by
  have waiting : Group.Plain (ranging group column.column) := plain
  have seen : columnIn (listed none) (ranging group column.column :: outer) =
      some column.column := columnIn_of_nearest waiting rfl
  have bound := (reads_expression low (fun _ => seen) insertKind?_settled).cons turns_between
  exact (reads_nest (.name column) insertKind?_settled).append bound fun _ _ => rfl

theorem reads_high {range : Range} (kept : range.Kept) (plain : group.Plain) :
    Reads none outer (· = range.low.leaves (ranging group range.column.column))
      (Keyword.AND.lexeme :: range.high.lexemes)
      (List.replicate range.high.markers range.column.column)
      (fun left => left.kind = group.kind ∧ left.betweenPending = false) := by
  let closed := ranged (range.low.leaves (ranging group range.column.column))
  have kind : closed.kind = group.kind := range.low.kind_leaves _
  have seen (marked : range.high.markers ≠ 0) :
      columnIn (listed none) (closed :: outer) = some range.column.column := by
    have direct : range.low.isCall = false := kept.resolve_right marked
    have nearest : closed.nearest = some range.column.column := by
      refine (range.low.nearest_leaves _).trans ?_
      rw [direct]
      rfl
    exact columnIn_of_nearest (plain_of_kind plain kind) nearest
  have bound := (reads_expression range.high seen insertKind?_settled).cons
    (turns_and_of_ranging range.low group range.column.column)
  refine bound.weaken ?_
  rintro left rfl
  exact ⟨(range.high.kind_leaves _).trans kind, range.high.betweenPending_leaves closed⟩

theorem reads_range {range : Range} (kept : range.Kept) (plain : group.Plain) :
    Reads none outer (· = group) range.lexemes range.columns
      (fun left => left.kind = group.kind ∧ left.betweenPending = false) := by
  rw [Range.columns, ← List.replicate_append_replicate]
  exact (reads_low range.column range.low plain).append (reads_high kept plain) fun _ _ => rfl

/-- Behind a call, no column is left in the clause for the second bound. -/
theorem refuses_range {range : Range} (called : range.low.isCall = true)
    (marked : range.high.markers ≠ 0) :
    (settled conditional [] []).run (range.lexemes.map Lexeme.token) =
      .error (.unresolvedMarker range.low.markers default) := by
  let closed := ranged (range.low.leaves (ranging conditional range.column.column))
  have root : closed.kind = .root := range.low.kind_leaves _
  have unseen : columnIn (listed none) [closed] = none := by
    rw [SameInside.columnIn_root root]
    refine (range.low.nearest_leaves _).trans ?_
    rw [called]
    rfl
  have high : Refuses none [] (· = range.low.leaves (ranging conditional range.column.column))
      (Keyword.AND.lexeme :: range.high.lexemes) :=
    (refuses_expression range.high unseen insertKind?_settled marked).cons
      (turns_and_of_ranging range.low conditional range.column.column)
  have low : Reads none [] (· = conditional) _ _ _ :=
    reads_low range.column range.low ready_conditional.plain
  have stopped := low.run_refuses high (fun _ => rfl) rfl []
  rw [List.append_nil, List.length_replicate] at stopped
  exact stopped

end Resolver

/-- Both bounds bind to the column, and what is joined to them is bound on its own, unless the
first bound is a call and the second one has a marker: that one is left without a column. -/
theorem resolve_range {text : String} (range : Range) (inside : ConditionIn text range.lexemes) :
    (range.Kept → ∃ found, found.map Parameter.column = range.columns ∧ inside.Resolves found ∧
      ∀ (conjunction : Token) (tail : List Token) (predicate : Predicate),
        inside.after = conjunction :: tail →
        conjunction.kind = .keyword .AND ∨ conjunction.kind = .keyword .OR →
        Spell tail predicate.lexemes →
        ∃ more, more.map Parameter.column = predicate.columns ∧
          resolve text = .ok (inside.earlier ++ found ++ more)) ∧
    (¬range.Kept → ∃ span, resolve text =
      .error (.unresolvedMarker (inside.earlier.length + range.low.markers) span)) := by
  constructor
  · intro kept
    have reads : Resolver.Reads none [] (· = Resolver.conditional) range.lexemes range.columns
        Group.AtRest :=
      (Resolver.reads_range kept Resolver.ready_conditional.plain).weaken
        fun _ left => ⟨left.1, left.2⟩
    obtain ⟨found, columns, resolves⟩ := inside.resolves reads
    refine ⟨found, columns, resolves, fun conjunction tail predicate split joins spell => ?_⟩
    have binds := Resolver.binds_predicate predicate Resolver.ready_conditional
    exact resolves.followed split joins binds.reads spell
  · intro lost
    obtain ⟨called, marked⟩ := not_or.mp lost
    exact inside.refused (Resolver.refuses_range (Bool.eq_true_of_not_eq_false called) marked)

theorem resolve_range_of_calls :
    (∃ found more : List Parameter, found.map Parameter.column = ["C", "C"] ∧
      more.map Parameter.column = ["D"] ∧
      resolve "where c between ? and date(?) and d = ?" = .ok (found ++ more)) ∧
    ∃ span, resolve "DELETE FROM t WHERE c BETWEEN date(?) AND ?" =
      .error (.unresolvedMarker 1 span) := by
  let column : Name := .word 'c' [] rfl
  let called : Expression := .call (.word 'd' ['a', 't', 'e'] rfl) [.marker]
  constructor
  · let range : Range := ⟨column, .marker, called⟩
    let equation : Predicate :=
      .atom (.compare (.nest (.name (.word 'd' [] rfl))) .equals (.plain .marker))
    let inside : ConditionIn "where c between ? and date(?) and d = ?" range.lexemes := {
      before := []
      whereWord := ⟨.keyword .WHERE, "where", ⟨0, 5⟩⟩
      condition := [⟨.identifier, "c", ⟨6, 7⟩⟩, ⟨.keyword .BETWEEN, "between", ⟨8, 15⟩⟩,
        ⟨.marker, "?", ⟨16, 17⟩⟩, ⟨.keyword .AND, "and", ⟨18, 21⟩⟩,
        ⟨.identifier, "date", ⟨22, 26⟩⟩, ⟨.leftParen, "(", ⟨26, 27⟩⟩,
        ⟨.marker, "?", ⟨27, 28⟩⟩, ⟨.rightParen, ")", ⟨28, 29⟩⟩]
      after := [⟨.keyword .AND, "and", ⟨30, 33⟩⟩, ⟨.identifier, "d", ⟨34, 35⟩⟩,
        ⟨.operator, "=", ⟨36, 37⟩⟩, ⟨.marker, "?", ⟨38, 39⟩⟩]
      earlier := []
      tokenized := by cbv
      isWhere := rfl
      noInsert := by decide
      resolved := rfl
      spell := by cbv
      ends := rfl }
    obtain ⟨found, columns, -, joined⟩ := (resolve_range range inside).1 (.inl rfl)
    obtain ⟨more, others, resolved⟩ := joined _ _ equation rfl (.inl rfl) (by cbv)
    exact ⟨found, more, columns, others, resolved⟩
  · let range : Range := ⟨column, called, .marker⟩
    let inside : ConditionIn "DELETE FROM t WHERE c BETWEEN date(?) AND ?" range.lexemes := {
      before := [⟨.keyword .DELETE, "DELETE", ⟨0, 6⟩⟩, ⟨.keyword .FROM, "FROM", ⟨7, 11⟩⟩,
        ⟨.identifier, "t", ⟨12, 13⟩⟩]
      whereWord := ⟨.keyword .WHERE, "WHERE", ⟨14, 19⟩⟩
      condition := [⟨.identifier, "c", ⟨20, 21⟩⟩, ⟨.keyword .BETWEEN, "BETWEEN", ⟨22, 29⟩⟩,
        ⟨.identifier, "date", ⟨30, 34⟩⟩, ⟨.leftParen, "(", ⟨34, 35⟩⟩,
        ⟨.marker, "?", ⟨35, 36⟩⟩, ⟨.rightParen, ")", ⟨36, 37⟩⟩,
        ⟨.keyword .AND, "AND", ⟨38, 41⟩⟩, ⟨.marker, "?", ⟨42, 43⟩⟩]
      after := []
      earlier := []
      tokenized := by cbv
      isWhere := rfl
      noInsert := by decide
      resolved := by cbv
      spell := by cbv
      ends := rfl }
    have lost : ¬range.Kept := by
      rintro (direct | unmarked)
      · cases direct
      · cases unmarked
    exact (resolve_range range inside).2 lost

/-- A call in the first bound takes the column from the second one. -/
theorem call_hides_column_from_second_bound :
    resolve "WHERE c BETWEEN ? AND date(?)" = .ok [⟨0, "C", ⟨16, 17⟩⟩, ⟨1, "C", ⟨27, 28⟩⟩] ∧
      resolve "WHERE c BETWEEN date(?) AND date(?)" = .error (.unresolvedMarker 1 ⟨33, 34⟩) := by
  constructor <;> cbv

end BindStream
