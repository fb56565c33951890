import Mathlib
import BindStream.Proofs.Predicate.Condition

namespace BindStream

/-! Comparisons of a tuple with rows, of which each item binds to the column at its place. -/

inductive RowOperator
  | operator (symbol : Operator)
  | isIn
  | notIn

/-- What a tuple is compared with. -/
inductive RowSide
  | row (items : List Expression)
  | list (rows : List (List Expression))

namespace RowOperator

def lexemes : RowOperator → List Lexeme
  | operator symbol => [symbol.lexeme]
  | isIn => [Keyword.IN.lexeme]
  | notIn => [Keyword.NOT.lexeme, Keyword.IN.lexeme]

end RowOperator

namespace RowSide

def all : RowSide → List (List Expression)
  | row items => [items]
  | list rows => rows

def lexemes : RowSide → List Lexeme
  | row items => Insertion.rowLexemes items
  | list rows => .opening :: (commaSeparated (rows.map Insertion.rowLexemes) ++ [.closing])

end RowSide

structure RowComparison where
  tuple : List Nest
  several : 2 ≤ tuple.length
  operator : RowOperator
  side : RowSide
  filled : side.all ≠ []
  shaped : ∀ row ∈ side.all, row.length = tuple.length

namespace RowComparison

def tupleLexemes (tuple : List Nest) : List Lexeme :=
  .opening :: (commaSeparated (tuple.map Nest.lexemes) ++ [.closing])

def lexemes (comparison : RowComparison) : List Lexeme :=
  tupleLexemes comparison.tuple ++ (comparison.operator.lexemes ++ comparison.side.lexemes)

/-- The columns of a tuple, each one once for each marker at its place in the row. -/
def bound (tuple : List Nest) (row : List Expression) : List String :=
  (tuple.zip row).flatMap fun (nest, expression) => List.replicate expression.markers nest.column

def boundColumns (comparison : RowComparison) : List String :=
  comparison.side.all.flatMap (bound comparison.tuple)

end RowComparison

namespace Resolver

variable {group : Group} {outer : List Group} {tuple : List Nest}

/-- The columns that rows compared with a tuple bind to. -/
def tupleColumns (tuple : List Nest) : Columns := tuple.map fun nest => some nest.column

theorem absorb_keeps (group inner : Group) :
    (group.absorb inner).kind = group.kind ∧
      (group.absorb inner).betweenPending = group.betweenPending := by
  rw [Group.absorb_eq]
  exact ⟨rfl, rfl⟩

/-- A tuple of several columns is what the next parentheses are compared with. -/
theorem reads_tuple (several : 2 ≤ tuple.length) (ready : group.Ready) :
    Reads none outer (· = group) (RowComparison.tupleLexemes tuple) []
      fun left => left.kind = group.kind ∧ left.betweenPending = false ∧
        left.tuple = some (tupleColumns tuple) := by
  have nonempty : tuple ≠ [] := by
    rintro rfl
    cases several
  have listed : Reads none ({ group with tuple := none } :: outer) (· = .start .nested default)
      (commaSeparated (tuple.map Nest.lexemes)) [] _ := reads_listed tuple nonempty
  rw [← innerKind_of_plain ready.plain ready.tuple] at listed
  refine (Reads.parenthesized listed).weaken ?_
  rintro _ ⟨inner, ⟨kind, counted, columns⟩, rfl⟩
  have items : 0 < inner.item ∧ inner.kind ≠ .call := by
    refine ⟨by omega, ?_⟩
    rw [kind, innerKind_of_plain ready.plain ready.tuple]
    rintro ⟨⟩
  rw [Group.absorb_eq, if_pos items, columns]
  exact ⟨rfl, ready.free, rfl⟩

/-- The markers of a row in which rows are compared bind by their place. -/
theorem reads_row {row : List Expression} (nonempty : tuple ≠ [])
    (shaped : row.length = tuple.length)
    (compared : innerKind group = .rowTuple (tupleColumns tuple)) :
    Reads none outer (· = group) (Insertion.rowLexemes row) (RowComparison.bound tuple row)
      fun left => left.kind = group.kind ∧ left.betweenPending = group.betweenPending := by
  have items : Reads none ({ group with tuple := none } :: outer)
      (· = .start (.rowTuple (tupleColumns tuple)) default)
      (commaSeparated (row.map Expression.lexemes)) (RowComparison.bound tuple row)
      (InRow (.rowTuple (tupleColumns tuple))) := by
    refine reads_row_items Nest.column shaped nonempty ?_
    intro inner inRow
    rw [Group.positional, inRow.bounded, inRow.kind]
    rfl
  rw [← compared] at items
  refine (Reads.parenthesized items).weaken ?_
  rintro _ ⟨inner, -, rfl⟩
  exact absorb_keeps _ _

theorem innerKind_of_tuple {columns : Columns} (plain : group.Plain)
    (compared : group.tuple = some columns) : innerKind group = .rowTuple columns := by
  unfold innerKind
  rcases plain with kind | kind <;> rw [kind, compared]

theorem innerKind_of_row {columns : Columns} (row : group.kind = .rowTuple columns) :
    innerKind group = .rowTuple columns := by
  unfold innerKind
  rw [row]

/-- Each row of a list takes over from the list what it is compared with. -/
theorem reads_side {side : RowSide} (nonempty : tuple ≠ []) (filled : side.all ≠ [])
    (shaped : ∀ row ∈ side.all, row.length = tuple.length)
    (compared : innerKind group = .rowTuple (tupleColumns tuple)) :
    Reads none outer (· = group) side.lexemes (side.all.flatMap (RowComparison.bound tuple))
      fun left => left.kind = group.kind ∧ left.betweenPending = group.betweenPending := by
  cases side with
  | row items =>
      rw [RowSide.all, List.flatMap_singleton]
      exact reads_row nonempty (shaped items List.mem_cons_self) compared
  | list rows =>
      have inside : Reads none ({ group with tuple := none } :: outer)
          (·.kind = .rowTuple (tupleColumns tuple))
          (commaSeparated (rows.map Insertion.rowLexemes))
          (rows.flatMap (RowComparison.bound tuple))
          (·.kind = .rowTuple (tupleColumns tuple)) := by
        refine .commaSeparated (fun _ inner => inner.kind = .rowTuple (tupleColumns tuple))
          (fun _ inner => inner.kind = .rowTuple (tupleColumns tuple))
          (fun done row later all => .of_forall fun inner kind => ?_)
          (fun _ _ kind => kind) filled
        have member : row ∈ rows := all ▸ List.mem_append_cons_self
        refine (reads_row nonempty (shaped row member) (innerKind_of_row kind)).weaken ?_
        exact fun left kept => kept.1.trans kind
      have begun : Reads none ({ group with tuple := none } :: outer)
          (· = .start (innerKind group) default)
          (commaSeparated (rows.map Insertion.rowLexemes))
          (rows.flatMap (RowComparison.bound tuple))
          (·.kind = .rowTuple (tupleColumns tuple)) := by
        rintro _ parameters rest rfl ends
        exact inside _ parameters rest compared ends
      refine (Reads.parenthesized begun).weaken ?_
      rintro _ ⟨inner, -, rfl⟩
      exact absorb_keeps _ _

theorem reads_rowOperator {lexemes : List Lexeme} {columns : List String} {after : Group → Prop}
    (operator : RowOperator) (reads : Reads none outer (· = group) lexemes columns after) :
    Reads none outer (· = group) (operator.lexemes ++ lexemes) columns after := by
  cases operator with
  | operator symbol => exact reads.cons (turns_operator symbol)
  | isIn => exact reads.cons (turns_keyword (by simp))
  | notIn => exact (reads.cons (turns_keyword (by simp))).cons (turns_keyword (by simp))

theorem opensGroup_rowOperator (operator : RowOperator) (rest : List Token) :
    opensGroup (operator.lexemes.map Lexeme.token ++ rest) = false := by
  cases operator with
  | operator symbol =>
      change (symbol.lexeme.kind == .leftParen) = false
      rw [symbol.isOperator]
      rfl
  | isIn => rfl
  | notIn => rfl

theorem reads_rowComparison (comparison : RowComparison) (ready : group.Ready) :
    Reads none outer (· = group) comparison.lexemes comparison.boundColumns
      fun left => left.kind = group.kind ∧ left.betweenPending = false := by
  have nonempty : comparison.tuple ≠ [] := by
    intro none
    have several := comparison.several
    rw [none] at several
    cases several
  have rows : Reads none outer
      (fun named => named.kind = group.kind ∧ named.betweenPending = false ∧
        named.tuple = some (tupleColumns comparison.tuple))
      (comparison.operator.lexemes ++ comparison.side.lexemes) comparison.boundColumns
      (fun left => left.kind = group.kind ∧ left.betweenPending = false) := by
    refine .of_forall fun named ⟨kind, free, compared⟩ => ?_
    have side : Reads none outer (· = named) _ _ _ :=
      reads_side nonempty comparison.filled comparison.shaped
        (innerKind_of_tuple (plain_of_kind ready.plain kind) compared)
    refine (reads_rowOperator comparison.operator side).weaken ?_
    exact fun left kept => ⟨kept.1.trans kind, kept.2.trans free⟩
  refine (reads_tuple comparison.several ready).append rows fun rest _ => ?_
  rw [List.map_append, List.append_assoc]
  exact opensGroup_rowOperator _ _

end Resolver

/-- Each marker of a row binds to the column at its place in the tuple, whatever precedes the
`WHERE`, and the comparison leaves nothing behind for what is joined to it. -/
theorem resolve_rowComparison {text : String} (comparison : RowComparison)
    (inside : ConditionIn text comparison.lexemes) :
    ∃ found, found.map Parameter.column = comparison.boundColumns ∧ inside.Resolves found :=
  inside.resolves <|
    (Resolver.reads_rowComparison comparison Resolver.ready_conditional).weaken
      fun _ kept => ⟨kept.1, kept.2⟩

theorem resolve_rowComparison_of_list :
    ∃ found : List Parameter, found.map Parameter.column = ["A", "B", "B"] ∧
      resolve "SET n = ? where (a, lower(b)) not in ((?, f(?)), (true, ?)) or x = ?" =
        resolvedBehind (⟨0, "N", ⟨8, 9⟩⟩ :: found) 0 (.ok [⟨0, "X", ⟨67, 68⟩⟩]) := by
  let first : Nest := .name (.word 'a' [] rfl)
  let second : Nest := .call (.word 'l' ['o', 'w', 'e', 'r'] rfl) (.name (.word 'b' [] rfl))
  let called : Expression := .call (.word 'f' [] rfl) [.marker]
  let constant : Expression := .literal (.constant .TRUE (by decide))
  let comparison : RowComparison := {
    tuple := [first, second]
    several := Nat.le_refl 2
    operator := .notIn
    side := .list [[.marker, called], [constant, .marker]]
    filled := List.cons_ne_nil _ _
    shaped := by simp [RowSide.all] }
  let inside : ConditionIn
      "SET n = ? where (a, lower(b)) not in ((?, f(?)), (true, ?)) or x = ?" comparison.lexemes := {
    before := [⟨.keyword .SET, "SET", ⟨0, 3⟩⟩, ⟨.identifier, "n", ⟨4, 5⟩⟩,
      ⟨.operator, "=", ⟨6, 7⟩⟩, ⟨.marker, "?", ⟨8, 9⟩⟩]
    whereWord := ⟨.keyword .WHERE, "where", ⟨10, 15⟩⟩
    condition := [⟨.leftParen, "(", ⟨16, 17⟩⟩, ⟨.identifier, "a", ⟨17, 18⟩⟩,
      ⟨.comma, ",", ⟨18, 19⟩⟩, ⟨.identifier, "lower", ⟨20, 25⟩⟩, ⟨.leftParen, "(", ⟨25, 26⟩⟩,
      ⟨.identifier, "b", ⟨26, 27⟩⟩, ⟨.rightParen, ")", ⟨27, 28⟩⟩,
      ⟨.rightParen, ")", ⟨28, 29⟩⟩, ⟨.keyword .NOT, "not", ⟨30, 33⟩⟩,
      ⟨.keyword .IN, "in", ⟨34, 36⟩⟩, ⟨.leftParen, "(", ⟨37, 38⟩⟩,
      ⟨.leftParen, "(", ⟨38, 39⟩⟩, ⟨.marker, "?", ⟨39, 40⟩⟩, ⟨.comma, ",", ⟨40, 41⟩⟩,
      ⟨.identifier, "f", ⟨42, 43⟩⟩, ⟨.leftParen, "(", ⟨43, 44⟩⟩, ⟨.marker, "?", ⟨44, 45⟩⟩,
      ⟨.rightParen, ")", ⟨45, 46⟩⟩, ⟨.rightParen, ")", ⟨46, 47⟩⟩, ⟨.comma, ",", ⟨47, 48⟩⟩,
      ⟨.leftParen, "(", ⟨49, 50⟩⟩, ⟨.keyword .TRUE, "true", ⟨50, 54⟩⟩,
      ⟨.comma, ",", ⟨54, 55⟩⟩, ⟨.marker, "?", ⟨56, 57⟩⟩, ⟨.rightParen, ")", ⟨57, 58⟩⟩,
      ⟨.rightParen, ")", ⟨58, 59⟩⟩]
    after := [⟨.keyword .OR, "or", ⟨60, 62⟩⟩, ⟨.identifier, "x", ⟨63, 64⟩⟩,
      ⟨.operator, "=", ⟨65, 66⟩⟩, ⟨.marker, "?", ⟨67, 68⟩⟩]
    earlier := [⟨0, "N", ⟨8, 9⟩⟩]
    tokenized := by cbv
    isWhere := rfl
    noInsert := by decide
    resolved := by cbv
    spell := by cbv
    ends := rfl }
  obtain ⟨found, columns, resolves⟩ := resolve_rowComparison comparison inside
  refine ⟨found, columns, ?_⟩
  rw [resolves.joined _ _ rfl (.inr rfl)]
  rfl

end BindStream
