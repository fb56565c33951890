import Mathlib
import BindStream.Proofs.Predicate.Statement
import BindStream.Proofs.Resolver.Spelling

namespace BindStream

/-! A reference inside calls of functions. A marker compared with the bare reference binds to the
last of its names, and one compared with a call to the first, which for a qualified reference is
that of a table. -/

/-- A name behind the names that qualify it. -/
structure Reference where
  qualifiers : List Name
  name : Name

namespace Reference

def lexemes (reference : Reference) : List Lexeme :=
  (Operand.qualified reference.qualifiers reference.name).lexemes

def leading (reference : Reference) : Name := reference.qualifiers.headD reference.name

/-- The reference as the argument of functions, the first of them outermost. -/
def wrapped (reference : Reference) (functions : List Name) : List Lexeme :=
  functions.foldr
    (fun function argument => function.lexeme :: .opening :: (argument ++ [.closing]))
    reference.lexemes

end Reference

/-- A statement that compares an operand with a marker. -/
def comparison (operand : List Lexeme) (operator : Operator) : List Lexeme :=
  Keyword.WHERE.lexeme :: (operand ++ [operator.lexeme, .marker])

namespace Resolver

theorem run_wrapped {parameters : List Parameter} (reference : Reference) (function : Name)
    (functions : List Name) (group : Group) (outer : List Group) (rest : List Token) :
    ∃ after,
      (settled group outer parameters).run
          ((reference.wrapped (function :: functions)).map Lexeme.token ++ rest) =
        (settled after outer parameters).run rest ∧
      Group.NamesOnce reference.leading.column group after := by
  induction functions generalizing function group outer rest with
  | nil =>
      have closes : opensGroup (Lexeme.closing.token :: rest) = false := rfl
      obtain ⟨inner, ran, names⟩ := run_qualified reference.qualifiers reference.name
        (.start .call default) (group :: outer) closes
      exact ⟨group.absorb inner, run_call function ran, names.absorb group⟩
  | cons next functions ih =>
      obtain ⟨inner, ran, names⟩ := ih next (.start .call default) (group :: outer)
        (Lexeme.closing.token :: rest)
      exact ⟨group.absorb inner, run_call function ran, names.namesFrom.absorb group⟩

/-- Behind `WHERE` a marker binds to the column that the operand compared with it leaves. -/
theorem resolveTokens_comparison {operand : List Lexeme} {column : String} (operator : Operator)
    (leaves : ∀ (group : Group) (rest : List Token), opensGroup rest = false → ∃ after,
      (settled group [] []).run (operand.map Lexeme.token ++ rest) =
        (settled after [] []).run rest ∧
      Group.Names column group after) :
    resolveTokens ((comparison operand operator).map Lexeme.token) =
      .ok [bound [] column] := by
  have ends : opensGroup ([operator.lexeme, .marker].map Lexeme.token) = false := by
    change (operator.lexeme.kind == .leftParen) = false
    rw [operator.isOperator]
    rfl
  obtain ⟨after, ran, names⟩ :=
    leaves (Group.boundary (.start .root default)) _ ends
  have plain : after.Plain := .inl names.kind
  have marked : (settled after [] []).run [Lexeme.marker.token] =
      .ok (settled after [] [bound [] column]) :=
    run_marker (column?_of_nearest plain.positional names.nearest)
  have begun : initial.run ((comparison operand operator).map Lexeme.token) =
      (settled (Group.boundary (.start .root default)) [] []).run
        ((operand ++ [operator.lexeme, .marker]).map Lexeme.token) :=
    turns_clause (by simp) [] [] _
  have whole : initial.run ((comparison operand operator).map Lexeme.token) =
      .ok (settled after [] [bound [] column]) := by
    rw [begun, List.map_append, ran]
    exact (run_operator operator).trans marked
  rw [resolveTokens, whole]
  rfl

end Resolver

theorem resolve_comparison {operand : List Lexeme} {operator : Operator} {text column : String}
    (spells : Spells text (comparison operand operator))
    (leaves : ∀ (group : Group) (rest : List Token), Resolver.opensGroup rest = false → ∃ after,
      (Resolver.settled group [] []).run (operand.map Lexeme.token ++ rest) =
        (Resolver.settled after [] []).run rest ∧
      Group.Names column group after) :
    ∃ found, resolve text = .ok [found] ∧ found.column = column := by
  obtain ⟨placed, resolved, columns⟩ :=
    spells.columns (Resolver.resolveTokens_comparison operator leaves)
  obtain ⟨found, rfl, same⟩ := List.map_eq_singleton_iff.mp columns
  exact ⟨found, resolved, same⟩

/-- Compared with a call around a reference, a marker binds to the first of the reference's names,
and so to the column of the bare reference exactly if that has the same name. -/
theorem resolve_wrapped (reference : Reference) (function : Name) (functions : List Name)
    (operator : Operator) {bare text : String}
    (spellsBare : Spells bare (comparison reference.lexemes operator))
    (spells : Spells text (comparison (reference.wrapped (function :: functions)) operator)) :
    ∃ plain found : Parameter,
      resolve bare = .ok [plain] ∧ plain.column = reference.name.column ∧
      resolve text = .ok [found] ∧ found.column = reference.leading.column ∧
      (found.column = plain.column ↔ reference.leading.column = reference.name.column) := by
  obtain ⟨plain, resolvedBare, last⟩ := resolve_comparison spellsBare fun group rest ends => by
    obtain ⟨after, ran, names⟩ :=
      Resolver.run_qualified reference.qualifiers reference.name group [] ends
    exact ⟨after, ran, names.toNames⟩
  obtain ⟨found, resolved, first⟩ := resolve_comparison spells fun group rest _ => by
    obtain ⟨after, ran, names⟩ := Resolver.run_wrapped reference function functions group [] rest
    exact ⟨after, ran, names.toNames⟩
  exact ⟨plain, found, resolvedBare, last, resolved, first, by rw [first, last]⟩

theorem resolve_wrapped_of_qualified :
    ∃ plain found : Parameter,
      resolve "where `my db`.u.ssn=?" = .ok [plain] ∧ plain.column = "SSN" ∧
      resolve "where lower( `Trim`(`my db`.u.ssn))=?" = .ok [found] ∧ found.column = "MY DB" := by
  let reference : Reference :=
    ⟨[.quoted "my db".toList, .word 'u' [] rfl], .word 's' ['s', 'n'] rfl⟩
  let lower : Name := .word 'l' ['o', 'w', 'e', 'r'] rfl
  have spellsBare : Spells "where `my db`.u.ssn=?" (comparison reference.lexemes .equals) := by
    cbv
  have spells : Spells "where lower( `Trim`(`my db`.u.ssn))=?"
      (comparison (reference.wrapped [lower, .quoted "Trim".toList]) .equals) := by
    cbv
  obtain ⟨plain, found, bare, last, resolved, first, -⟩ :=
    resolve_wrapped reference lower [.quoted "Trim".toList] .equals spellsBare spells
  exact ⟨plain, found, bare, last, resolved, first⟩

/-- A call around a qualified column hides it behind the name of its table. -/
theorem call_hides_qualified_column :
    resolve "WHERE u.ssn = ?" = .ok [⟨0, "SSN", ⟨14, 15⟩⟩] ∧
      resolve "WHERE lower(u.ssn) = ?" = .ok [⟨0, "U", ⟨21, 22⟩⟩] := by
  constructor <;> cbv

end BindStream
