import BindStream.Resolver

namespace BindStream

/-! A statement text that remembers its parameters. -/

/-- A statement has no text until one is set, which is not the same as an empty one. -/
structure Statement where
  text : Option String
  known : Option (List Parameter)
  deriving DecidableEq, Repr

namespace Statement

def unset : Statement := ⟨none, none⟩

def ofText (text : String) : Statement := ⟨some text, none⟩

def setText (_ : Statement) (text : String) : Statement := ofText text

def countMarkers (statement : Statement) : Nat := statement.text.elim 0 BindStream.countMarkers

/-- The parameters, and the statement that remembers them. A failure is not remembered. -/
def parameters (statement : Statement) : Except ResolveError (List Parameter) × Statement :=
  match statement.known, statement.text with
  | some known, _ => (.ok known, statement)
  | none, none => (.error .noExpression, statement)
  | none, some text =>
    match resolve text with
    | .ok found => (.ok found, { statement with known := some found })
    | .error e => (.error e, statement)

def columnNames (statement : Statement) : Except ResolveError (List String) × Statement :=
  let (result, statement) := statement.parameters
  (result.map (·.map Parameter.column), statement)

end Statement

end BindStream
