import BindStream.Proofs.Predicate.Items
import BindStream.Proofs.Predicate.Operand

namespace BindStream

/-! Predicates bind each marker to the column that it is compared with. -/

theorem Nest.countP_isMarker (nest : Nest) : nest.lexemes.countP Lexeme.isMarker = 0 := by
  induction nest with
  | name inner => simp [Nest.lexemes]
  | call function argument ih => simp [Nest.lexemes, ih]

theorem Operand.countP_isMarker (operand : Operand) :
    operand.lexemes.countP Lexeme.isMarker = 0 := by
  cases operand with
  | qualified qualifiers name =>
      have unmarked :
          (qualifiers.flatMap Operand.qualifier).countP Lexeme.isMarker = 0 := by
        induction qualifiers with
        | nil => rfl
        | cons qualifier qualifiers ih => simp [Operand.qualifier, List.flatMap_cons, ih]
      simp [Operand.lexemes, unmarked]
  | nest calls => exact calls.countP_isMarker

theorem Atom.columns_eq (atom : Atom) :
    atom.columns =
      List.replicate (atom.test.countP Lexeme.isMarker) atom.operand.column := by
  rw [columns, lexemes, List.countP_append, Operand.countP_isMarker, Nat.zero_add]

/-- A group in which a predicate may begin. -/
structure Group.Ready (group : Group) : Prop where
  plain : group.Plain
  free : group.betweenPending = false
  tuple : group.tuple = none

namespace Resolver

variable {group after : Group} {column : String}

theorem plain_of_kind (plain : group.Plain) (kind : after.kind = group.kind) :
    after.Plain := by
  rw [Group.Plain, kind]
  exact plain

theorem ready_boundary (plain : group.Plain) : group.boundary.Ready := ⟨plain, rfl, rfl⟩

theorem ready_of_names (names : Group.Names column group after) (ready : group.Ready) :
    after.Ready :=
  ⟨plain_of_kind ready.plain names.kind, names.betweenPending.trans ready.free, names.tuple⟩

theorem binds_call (function : Name) (arguments : List Argument) (ready : group.Ready)
    (nearest : group.nearest = some column) :
    Binds (Comparand.call function arguments).lexemes
      (List.replicate ((Comparand.call function arguments).lexemes.countP Lexeme.isMarker)
        column) group := by
  intro outer parameters rest
  let parts := arguments.map fun argument => [argument.lexeme]
  have items : ∀ item ∈ commaSeparated parts, item.IsItem := by
    apply isItem_of_mem_commaSeparated
    intro part listed item inside
    obtain ⟨argument, -, rfl⟩ := List.mem_map.mp listed
    rw [List.mem_singleton.mp inside]
    exact isItem_argument argument
  have opened : (Group.start .call default).Transparent := ⟨.inr rfl, rfl, rfl, rfl⟩
  obtain ⟨after, found, ran, columns, kind, free⟩ :=
    run_enclosed items ready.plain nearest opened
  refine ⟨after, found, ?_, ?_, kind, free.trans ready.free⟩
  · exact (run_function function insertKind?_settled).trans ran
  · rw [columns]
    simp [Comparand.lexemes, parts]

theorem binds_comparand (comparand : Comparand) (ready : group.Ready)
    (nearest : group.nearest = some column) :
    Binds comparand.lexemes
      (List.replicate (comparand.lexemes.countP Lexeme.isMarker) column) group := by
  cases comparand with
  | plain argument =>
      cases argument with
      | marker => exact .marker ready.plain nearest (.nil ready.free)
      | literal value =>
          have unmarked : [value.lexeme].countP Lexeme.isMarker = 0 := by simp
          rw [Comparand.lexemes, Argument.lexeme, unmarked]
          exact .cons (turns_literal value) rfl (.nil ready.free)
  | call function arguments => exact binds_call function arguments ready nearest

theorem binds_list (count : Nat) (ready : group.Ready) (nearest : group.nearest = some column) :
    Binds (.opening :: (commaSeparated (List.replicate count [.marker]) ++ [.closing]))
      (List.replicate
        ((commaSeparated (List.replicate count [.marker])).countP Lexeme.isMarker) column)
      group := by
  intro outer parameters rest
  have items : ∀ item ∈ commaSeparated (List.replicate count [.marker]), item.IsItem := by
    apply isItem_of_mem_commaSeparated
    intro part listed item inside
    rw [List.eq_of_mem_replicate listed] at inside
    exact .inl (List.mem_singleton.mp inside)
  have opened : (Group.start (innerKind group) default).Transparent :=
    ⟨.inl (innerKind_of_plain ready.plain ready.tuple), rfl, rfl, rfl⟩
  have plain : Group.Plain { group with tuple := none } := ready.plain
  obtain ⟨after, found, ran, columns, kind, free⟩ := run_enclosed items plain nearest opened
  exact ⟨after, found, run_opening.trans ran, columns, kind, free.trans ready.free⟩

theorem binds_test (atom : Atom) (ready : group.Ready)
    (nearest : group.nearest = some column) :
    Binds atom.test (List.replicate (atom.test.countP Lexeme.isMarker) column) group := by
  cases atom with
  | compare operand operator comparand =>
      have unmarked : (operator.lexeme :: comparand.lexemes).countP Lexeme.isMarker =
          comparand.lexemes.countP Lexeme.isMarker := by simp
      rw [Atom.test, unmarked]
      exact .cons (turns_operator operator) rfl (binds_comparand comparand ready nearest)
  | isIn operand others =>
      have unmarked : (Atom.isIn operand others).test.countP Lexeme.isMarker =
          (commaSeparated (List.replicate (others + 1) [Lexeme.marker])).countP
            Lexeme.isMarker := by
        simp [Atom.test]
      rw [unmarked]
      exact .cons (turns_keyword (by simp)) rfl (binds_list (others + 1) ready nearest)
  | between operand =>
      let waiting : Group := { group with betweenPending := true }
      have plain : waiting.Plain := ready.plain
      have ended : Turns Keyword.AND.lexeme waiting
          { waiting with betweenPending := false } := by
        rw [← Group.conjunction_of_pending waiting rfl]
        exact turns_and
      refine .cons turns_between rfl (.marker plain nearest (.cons ended rfl ?_))
      exact .marker ready.plain nearest (.nil rfl)
  | like operand =>
      exact .cons (turns_keyword (by simp)) rfl (.marker ready.plain nearest (.nil ready.free))

theorem opensGroup_test (atom : Atom) (rest : List Token) :
    opensGroup (atom.test.map Lexeme.token ++ rest) = false := by
  cases atom with
  | compare operand operator comparand =>
      change (operator.lexeme.kind == .leftParen) = false
      rw [operator.isOperator]
      rfl
  | isIn operand others => rfl
  | between operand => rfl
  | like operand => rfl

theorem binds_atom (atom : Atom) (ready : group.Ready) :
    Binds atom.lexemes atom.columns group := by
  intro outer parameters rest
  obtain ⟨named, ran, names⟩ :=
    run_operand atom.operand group outer (opensGroup_test atom rest)
  obtain ⟨after, found, tested, columns, kind, free⟩ :=
    binds_test atom (ready_of_names names ready) names.nearest outer parameters rest
  refine ⟨after, found, ?_, ?_, kind.trans names.kind, free⟩
  · rw [Atom.lexemes, List.map_append, List.append_assoc, ran, tested]
  · rw [columns, atom.columns_eq]

/-- Each part of a predicate begins in a group that is ready for it. -/
theorem binds_predicate (predicate : Predicate) (ready : group.Ready) :
    Binds predicate.lexemes predicate.columns group := by
  induction predicate generalizing group with
  | atom leaf => exact binds_atom leaf ready
  | not predicate ih => exact .cons (turns_keyword (by simp)) rfl (ih ready)
  | and left right ihLeft ihRight =>
      -- The boundary also drops the tuple that an `IN` has left, so that no row opens next.
      refine (ihLeft ready).append fun after kind free => ?_
      have ended : Turns Keyword.AND.lexeme after after.boundary := by
        rw [← Group.conjunction_of_not_pending after free]
        exact turns_and
      exact .cons ended rfl (ihRight (ready_boundary (plain_of_kind ready.plain kind)))
  | or left right ihLeft ihRight =>
      refine (ihLeft ready).append fun after kind free => ?_
      exact .cons turns_or rfl (ihRight (ready_boundary (plain_of_kind ready.plain kind)))
  | parenthesized predicate ih =>
      intro outer parameters rest
      have opened : (Group.start (innerKind group) default).Ready :=
        ⟨.inr (innerKind_of_plain ready.plain ready.tuple), rfl, rfl⟩
      obtain ⟨inner, found, ran, columns, -, -⟩ := ih opened
        ({ group with tuple := none } :: outer) parameters (Lexeme.closing.token :: rest)
      refine ⟨Group.absorb { group with tuple := none } inner, found, ?_, columns, ?_, ?_⟩
      · rw [Predicate.lexemes, List.map_cons, List.cons_append, run_opening, List.map_append,
          List.append_assoc]
        exact ran.trans (run_closing rfl (.inl rfl))
      · rw [Group.absorb_eq]
      · rw [Group.absorb_eq]
        exact ready.free

end Resolver

end BindStream
