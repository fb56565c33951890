import Mathlib
import BindStream.Proofs.Resolver.Record
import BindStream.Proofs.Resolver.Subselect

namespace BindStream

/-! Parentheses around a marker that is in parentheses already. In a row that another tuple is
compared with they are taken for one more row. -/

namespace Resolver

variable {resolver : Resolver} {before rest : List Token} {token : Token} {depth : Nat}

theorem innerKind_of_apart {group : Group} (apart : group.tuple = none) :
    innerKind group = match group.kind.row? with
      | some columns => .rowTuple columns
      | none => .nested := by
  unfold innerKind
  rw [apart]
  cases group.kind <;> rfl

/-- One more group passes on to a marker what it would see outside, but that the group begins a
row of its own where the one around it is a row. -/
theorem column?_openGroup_iff (inside : resolver.outer ≠ []) (calls : resolver.callPending = false)
    (apart : resolver.current.tuple = none) (span : Span) :
    (resolver.openGroup span).column? = resolver.column? ↔
      ∀ columns ∈ resolver.row?, columns[0]?.join = resolver.column? := by
  have noRow : resolver.insertKind? = none := by
    rw [insertKind?, atRoot, List.isEmpty_eq_false_iff.mpr inside]
    rfl
  have same : { resolver.current with tuple := none } = resolver.current := by rw [← apart]
  have opened : resolver.openGroup span =
      resolver.enter resolver.current (innerKind resolver.current) span := by
    rw [openGroup, noRow, calls, same]
    rfl
  rw [opened, innerKind_of_apart apart, row?]
  cases row : resolver.current.kind.row? with
  | none =>
      have seen : (resolver.enter resolver.current .nested span).column? = resolver.column? := rfl
      exact iff_of_true seen fun columns listed => absurd listed (Option.not_mem_none columns)
  | some columns =>
      have seen : (resolver.enter resolver.current (.rowTuple columns) span).column? =
          columns[0]?.join := rfl
      dsimp only
      rw [seen]
      simp

/-- In parentheses, where no group of several items has just closed, the next parentheses are
compared with none. -/
theorem apart_of_skim (inside : depthAfter 0 before = some (depth + 1))
    (apart : holdsTuple (Outline.behind before).members = false) :
    (initial.skim before).outer ≠ [] ∧ (initial.skim before).callPending = false ∧
      (initial.skim before).current.tuple = none := by
  obtain ⟨keeps, deep⟩ := keeps_skim inside
  have uncalled : endsInCallee (Outline.behind before).members = false :=
    Bool.eq_false_iff.mpr fun called => absurd (keeps.opens called) nofun
  have calls := keeps.calls.trans uncalled
  generalize Outline.behind before = outline at keeps deep apart
  generalize initial.skim before = reached at keeps calls ⊢
  obtain ⟨current, outer, insert, callPending, parameters⟩ := reached
  cases keeps.stacked with
  | bottom => cases deep
  | inner records nested called noList around =>
      refine ⟨List.cons_ne_nil _ _, calls, ?_⟩
      by_contra held
      have holds := records.tuple nested held
      rw [apart] at holds
      cases holds

end Resolver

open Resolver

/-- A text, and another one in which parentheses open before one of its markers. The marker is in
parentheses already, and comes neither right behind a name nor, since the last separator, behind
several items in parentheses. -/
structure Parenthesized (text other : String) where
  before : List Token
  marker : Token
  after : List Token
  others : List Token
  opening : Token
  otherMarker : Token
  rest : List Token
  depth : Nat
  tokenized : tokenize text = .ok (before ++ marker :: after)
  otherTokenized : tokenize other = .ok (others ++ opening :: otherMarker :: rest)
  same : others.map Token.aspect = before.map Token.aspect
  marked : marker.isMarker = true
  otherMarked : otherMarker.isMarker = true
  opens : opening.kind = .leftParen
  inside : depthAfter 0 before = some (depth + 1)
  uncalled : ∀ last ∈ before.getLast?, last.columnName = none
  apart : holdsTuple (Outline.behind before).members = false

namespace Parenthesized

variable {text other : String}

/-- The columns of the tuple that the group around the marker is compared with. -/
def row? (wrapped : Parenthesized text other) : Option Columns :=
  (initial.skim wrapped.before).row?

theorem columnAfter_eq_iff (wrapped : Parenthesized text other) :
    columnAfter (wrapped.others ++ [wrapped.opening]) = columnAfter wrapped.before ↔
      ∀ columns ∈ wrapped.row?, columns[0]?.join = columnAfter wrapped.before := by
  obtain ⟨inside, calls, apart⟩ := apart_of_skim wrapped.inside wrapped.apart
  have same : (wrapped.others ++ [wrapped.opening]).map Token.aspect =
      (wrapped.before ++ [wrapped.opening]).map Token.aspect := by
    rw [List.map_append, List.map_append, wrapped.same]
  have entered : (initial.skim wrapped.before).pass wrapped.opening false =
      (initial.skim wrapped.before).openGroup wrapped.opening.span := by
    apply pass_of_ok
    rw [accept, wrapped.opens]
  have opened : columnAfter (wrapped.before ++ [wrapped.opening]) =
      ((initial.skim wrapped.before).openGroup wrapped.opening.span).column? := by
    rw [columnAfter, skim_append, skimBefore_of_unnamed wrapped.uncalled, skim,
      ← entered]
    rfl
  rw [columnAfter_of_aspects same, opened]
  exact column?_openGroup_iff inside calls apart wrapped.opening.span

/-- The number of the marker among those of its text. -/
def ordinal (wrapped : Parenthesized text other) : Nat := wrapped.before.countP Token.isMarker

theorem column_eq_iff (wrapped : Parenthesized text other) {found placed : List Parameter}
    (resolved : resolve text = .ok found) (resolvedToo : resolve other = .ok placed) :
    placed[wrapped.ordinal]?.map Parameter.column = found[wrapped.ordinal]?.map Parameter.column ↔
      ∀ columns ∈ wrapped.row?, columns[0]?.join = columnAfter wrapped.before := by
  have tokenizedToo : tokenize other =
      .ok ((wrapped.others ++ [wrapped.opening]) ++ wrapped.otherMarker :: wrapped.rest) := by
    rw [wrapped.otherTokenized, List.append_assoc]
    rfl
  have counted : (wrapped.others ++ [wrapped.opening]).countP Token.isMarker = wrapped.ordinal := by
    have unmarked : wrapped.opening.isMarker = false := by
      rw [Token.isMarker, wrapped.opens]
      rfl
    rw [List.countP_append, List.countP_singleton, unmarked,
      countP_isMarker_of_resemble (resemble_of_aspects wrapped.same)]
    rfl
  obtain ⟨first, listed, seen⟩ :=
    parameter_of_resolve wrapped.tokenized wrapped.marked resolved
  obtain ⟨second, listedToo, seenToo⟩ :=
    parameter_of_resolve tokenizedToo wrapped.otherMarked resolvedToo
  rw [counted] at listedToo
  have given : found[wrapped.ordinal]? = some first := listed
  rw [← wrapped.columnAfter_eq_iff, seen, seenToo, given, listedToo]
  exact Iff.rfl

end Parenthesized

/-- In parentheses, further ones around a marker leave it its column, unless the group around it is
a row that is compared with a tuple: then the marker has the tuple's first column, whatever its
place in the row. -/
theorem parentheses_keep_column (resolver : Resolver) (span : Span)
    (inside : resolver.outer ≠ []) (calls : resolver.callPending = false)
    (apart : resolver.current.tuple = none) :
    ((resolver.openGroup span).column? = resolver.column? ↔
      ∀ columns ∈ resolver.row?, columns[0]?.join = resolver.column?) ∧
    ∀ (text other : String) (wrapped : Parenthesized text other),
      (columnAfter (wrapped.others ++ [wrapped.opening]) = columnAfter wrapped.before ↔
        ∀ columns ∈ wrapped.row?, columns[0]?.join = columnAfter wrapped.before) ∧
      ∀ found placed, resolve text = .ok found → resolve other = .ok placed →
        (placed[wrapped.ordinal]?.map Parameter.column =
            found[wrapped.ordinal]?.map Parameter.column ↔
          ∀ columns ∈ wrapped.row?, columns[0]?.join = columnAfter wrapped.before) :=
  ⟨column?_openGroup_iff inside calls apart span,
    fun _ _ wrapped => ⟨wrapped.columnAfter_eq_iff,
      fun _ _ resolved resolvedToo => wrapped.column_eq_iff resolved resolvedToo⟩⟩

theorem parentheses_keep_column_of_values :
    (∃ resolver : Resolver, resolver.outer ≠ [] ∧ resolver.column? = some "B" ∧
      (resolver.openGroup default).column? = resolver.column?) ∧
    ∃ found placed : List Parameter,
      resolve "INSERT INTO t (a, b) VALUES (f(1), ?)" = .ok found ∧
      resolve "insert into t(A,B) values(f(2),(?))" = .ok placed ∧
      placed[0]?.map Parameter.column = found[0]?.map Parameter.column := by
  let row : Group := { Group.start .valuesTuple default with item := 1 }
  let resolver : Resolver := {
    current := row
    outer := [.start .root default]
    insert := some ⟨some [some "A", some "B"], some .VALUES⟩
    callPending := false
    parameters := [] }
  have inside : resolver.outer ≠ [] := List.cons_ne_nil _ _
  obtain ⟨state, texts⟩ := parentheses_keep_column resolver default inside rfl rfl
  have kept : (resolver.openGroup default).column? = resolver.column? :=
    state.mpr fun _ listed => absurd listed (Option.not_mem_none _)
  let wrapped : Parenthesized "INSERT INTO t (a, b) VALUES (f(1), ?)"
      "insert into t(A,B) values(f(2),(?))" := {
    before := [⟨.keyword .INSERT, "INSERT", ⟨0, 6⟩⟩, ⟨.keyword .INTO, "INTO", ⟨7, 11⟩⟩,
      ⟨.identifier, "t", ⟨12, 13⟩⟩, ⟨.leftParen, "(", ⟨14, 15⟩⟩,
      ⟨.identifier, "a", ⟨15, 16⟩⟩, ⟨.comma, ",", ⟨16, 17⟩⟩, ⟨.identifier, "b", ⟨18, 19⟩⟩,
      ⟨.rightParen, ")", ⟨19, 20⟩⟩, ⟨.keyword .VALUES, "VALUES", ⟨21, 27⟩⟩,
      ⟨.leftParen, "(", ⟨28, 29⟩⟩, ⟨.identifier, "f", ⟨29, 30⟩⟩,
      ⟨.leftParen, "(", ⟨30, 31⟩⟩, ⟨.number, "1", ⟨31, 32⟩⟩, ⟨.rightParen, ")", ⟨32, 33⟩⟩,
      ⟨.comma, ",", ⟨33, 34⟩⟩]
    marker := ⟨.marker, "?", ⟨35, 36⟩⟩
    after := [⟨.rightParen, ")", ⟨36, 37⟩⟩]
    others := [⟨.keyword .INSERT, "insert", ⟨0, 6⟩⟩, ⟨.keyword .INTO, "into", ⟨7, 11⟩⟩,
      ⟨.identifier, "t", ⟨12, 13⟩⟩, ⟨.leftParen, "(", ⟨13, 14⟩⟩,
      ⟨.identifier, "A", ⟨14, 15⟩⟩, ⟨.comma, ",", ⟨15, 16⟩⟩, ⟨.identifier, "B", ⟨16, 17⟩⟩,
      ⟨.rightParen, ")", ⟨17, 18⟩⟩, ⟨.keyword .VALUES, "values", ⟨19, 25⟩⟩,
      ⟨.leftParen, "(", ⟨25, 26⟩⟩, ⟨.identifier, "f", ⟨26, 27⟩⟩,
      ⟨.leftParen, "(", ⟨27, 28⟩⟩, ⟨.number, "2", ⟨28, 29⟩⟩, ⟨.rightParen, ")", ⟨29, 30⟩⟩,
      ⟨.comma, ",", ⟨30, 31⟩⟩]
    opening := ⟨.leftParen, "(", ⟨31, 32⟩⟩
    otherMarker := ⟨.marker, "?", ⟨32, 33⟩⟩
    rest := [⟨.rightParen, ")", ⟨33, 34⟩⟩, ⟨.rightParen, ")", ⟨34, 35⟩⟩]
    depth := 0
    tokenized := by cbv
    otherTokenized := by cbv
    same := by cbv
    marked := rfl
    otherMarked := rfl
    opens := rfl
    inside := rfl
    uncalled := by
      rintro _ ⟨⟩
      rfl
    apart := by cbv }
  have resolved : resolve "INSERT INTO t (a, b) VALUES (f(1), ?)" = .ok [⟨0, "B", ⟨35, 36⟩⟩] := by
    cbv
  have resolvedToo : resolve "insert into t(A,B) values(f(2),(?))" =
      .ok [⟨0, "B", ⟨32, 33⟩⟩] := by
    cbv
  refine ⟨⟨resolver, inside, rfl, kept⟩, _, _, resolved, resolvedToo, ?_⟩
  refine ((texts _ _ wrapped).2 _ _ resolved resolvedToo).mpr fun columns listed => ?_
  cases listed

/-- Parentheses in a row of a comparison are taken for one more row. -/
theorem parentheses_in_row_take_first_column :
    resolve "WHERE (a, b) = (?, ?)" = .ok [⟨0, "A", ⟨16, 17⟩⟩, ⟨1, "B", ⟨19, 20⟩⟩] ∧
      resolve "WHERE (a, b) = (?, (?))" = .ok [⟨0, "A", ⟨16, 17⟩⟩, ⟨1, "A", ⟨20, 21⟩⟩] := by
  constructor <;> cbv

end BindStream
