import BindStream.Proofs.Group
import BindStream.Proofs.Predicate.Syntax
import BindStream.Proofs.Resolver.Run

namespace BindStream

/-! The resolver on the single words of a statement. -/

namespace Lexeme

@[simp] theorem isMarker_marker : marker.isMarker = true := rfl

@[simp] theorem isMarker_opening : opening.isMarker = false := rfl

@[simp] theorem isMarker_closing : closing.isMarker = false := rfl

@[simp] theorem isMarker_keyword (keyword : Keyword) : keyword.lexeme.isMarker = false := rfl

@[simp] theorem isMarker_name (name : Name) : name.lexeme.isMarker = false := by
  cases name <;> rfl

@[simp] theorem isMarker_operator (operator : Operator) :
    operator.lexeme.isMarker = false := by
  rw [isMarker, operator.isOperator]
  rfl

@[simp] theorem isMarker_literal (literal : Literal) : literal.lexeme.isMarker = false := by
  cases literal with
  | quoted delimiter delimits text => rfl
  | number lexeme isNumber =>
      rw [Literal.lexeme, isMarker, isNumber]
      rfl
  | constant keyword named => rfl

end Lexeme

namespace Resolver

def bound (parameters : List Parameter) (column : String) : Parameter :=
  ⟨parameters.length, column, default⟩

section

variable {resolver : Resolver} {parent : Group} {outer : List Group} {rest : List Token}

theorem run_name (name : Name) (ends : opensGroup rest = false) :
    resolver.run (name.lexeme.token :: rest) =
      (resolver.mapCurrent (·.push name.column)).run rest := by
  have pushed : resolver.name name.lexeme.token false =
      resolver.mapCurrent (·.push name.column) := by
    rw [Resolver.name, name.columnName_token]
    rfl
  apply run_cons_of_ok
  rw [ends, ← pushed]
  cases name <;> rfl

theorem run_operator (operator : Operator) :
    resolver.run (operator.lexeme.token :: rest) = resolver.run rest := by
  have kind : operator.lexeme.token.kind = .operator := operator.isOperator
  apply run_cons_of_ok
  rw [accept, kind]

theorem run_literal (literal : Literal) :
    resolver.run (literal.lexeme.token :: rest) = resolver.run rest := by
  apply run_cons_of_ok
  cases literal with
  | quoted delimiter delimits text => rfl
  | number lexeme isNumber =>
      have kind : lexeme.token.kind = .number := isNumber
      rw [Literal.lexeme, accept, kind]
  | constant keyword named =>
      simp only [List.mem_cons, List.not_mem_nil, or_false] at named
      rcases named with rfl | rfl | rfl <;> rfl

theorem run_marker {column : String} (seen : resolver.column? = some column) :
    resolver.run (Lexeme.marker.token :: rest) =
      ({ resolver with parameters := resolver.parameters ++ [bound resolver.parameters column] } :
        Resolver).run rest := by
  apply run_cons_of_ok
  change resolver.marker default = _
  rw [marker, seen]
  rfl

theorem run_comma :
    resolver.run (Lexeme.comma.token :: rest) = (resolver.mapCurrent Group.nextItem).run rest :=
  run_cons_of_ok rfl

theorem run_function (function : Name) (noRow : resolver.insertKind? = none) :
    resolver.run (function.lexeme.token :: Lexeme.opening.token :: rest) =
      (resolver.enter resolver.current .call default).run rest := by
  let calling : Resolver := { resolver with callPending := true }
  have begun : resolver.accept function.lexeme.token true = .ok calling := by
    cases function <;> rfl
  have stillNoRow : calling.insertKind? = none := noRow
  have opened : calling.accept Lexeme.opening.token (opensGroup rest) =
      .ok (resolver.enter resolver.current .call default) := by
    change Except.ok (calling.openGroup default) = _
    rw [openGroup, stillNoRow]
    rfl
  rw [run_cons_of_ok begun, run_cons_of_ok opened]

/-- A group closes that is not the column list of an `INSERT`. -/
theorem run_closing (surrounded : resolver.outer = parent :: outer)
    (noList : resolver.insert = none ∨ resolver.current.kind ≠ .columnList) :
    resolver.run (Lexeme.closing.token :: rest) =
      ({ resolver with current := parent.absorb resolver.current, outer := outer } :
        Resolver).run rest := by
  apply run_cons_of_ok
  change resolver.closeGroup default = _
  have kept : (if resolver.current.kind = .columnList then
      resolver.insert.map ({ · with columns := some resolver.current.columns })
      else resolver.insert) = resolver.insert := by
    rcases noList with outside | other
    · rw [outside]
      exact ite_self none
    · exact if_neg other
  rw [closeGroup, surrounded]
  dsimp only
  rw [kept]

end

/-- A resolver outside any `INSERT` that is not about to open a call. -/
def settled (group : Group) (outer : List Group) (parameters : List Parameter) : Resolver where
  current := group
  outer := outer
  insert := none
  callPending := false
  parameters := parameters

variable {group : Group} {outer : List Group} {parameters : List Parameter}
variable {rest : List Token}

theorem insertKind?_settled : (settled group outer parameters).insertKind? = none :=
  ite_self none

theorem run_opening :
    (settled group outer parameters).run (Lexeme.opening.token :: rest) =
      (settled (.start (innerKind group) default) ({ group with tuple := none } :: outer)
        parameters).run rest := by
  apply run_cons_of_ok
  change Except.ok ((settled group outer parameters).openGroup default) = _
  rw [openGroup, insertKind?_settled]
  rfl

theorem column?_of_nearest {column : String} (byName : group.positional [] = none)
    (nearest : group.nearest = some column) :
    (settled group outer parameters).column? = some column := by
  change columnIn [] (group :: outer) = _
  rw [columnIn, byName, nearest]

end Resolver

end BindStream
