import BindStream.Statement
import BindStream.Value

namespace BindStream

/-! Values paired with the markers of a statement. -/

inductive BindError
  | unresolved (cause : ResolveError)
  | arityMismatch (expected found : Nat)
  deriving DecidableEq, Repr

def BindError.message : BindError → String
  | unresolved cause => cause.message
  | arityMismatch expected found =>
    s!"Statement has {expected} bind markers but {found} values were supplied"

structure BoundValue where
  parameter : Parameter
  value : Value
  deriving DecidableEq, Repr

/-- Pairs each parameter with the value at its place. -/
def pairValues (parameters : List Parameter) (values : List Value) :
    Except BindError (List BoundValue) :=
  if parameters.length = values.length then .ok (List.zipWith BoundValue.mk parameters values)
  else .error (.arityMismatch parameters.length values.length)

/-- Binds values to a statement, by position. -/
def Statement.bind {α : Type} [ToValue α] (statement : Statement) (values : List α) :
    Except BindError (List BoundValue) × Statement :=
  let (result, statement) := statement.parameters
  (result.mapError .unresolved >>= fun parameters => pairValues parameters (values.map toValue),
    statement)

end BindStream
