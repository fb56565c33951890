import BindStream.Token.Scan

namespace BindStream

/-! Bind parameters, and why a statement has none. -/

/-- A bind marker with the column it binds to. -/
structure Parameter where
  ordinal : Nat
  column : String
  span : Span
  deriving DecidableEq, Repr

namespace Parameter

def display (parameter : Parameter) : String := s!"{parameter.ordinal}: {parameter.column}"

def shift (markers octets : Nat) (parameter : Parameter) : Parameter :=
  { parameter with
    ordinal := parameter.ordinal + markers
    span := parameter.span.shift octets }

end Parameter

inductive ResolveError
  | noExpression
  | unterminatedLiteral (span : Span)
  | unresolvedMarker (ordinal : Nat) (span : Span)
  | unbalancedParenthesis (span : Span)
  deriving DecidableEq, Repr

namespace ResolveError

def span? : ResolveError → Option Span
  | noExpression => none
  | unterminatedLiteral span => some span
  | unresolvedMarker _ span => some span
  | unbalancedParenthesis span => some span

/-- A statement without text is an error of use; the others lie in the text. -/
def isUsage : ResolveError → Bool
  | noExpression => true
  | _ => false

def message : ResolveError → String
  | noExpression => "No expression has been set"
  | unterminatedLiteral span => UnterminatedLiteral.message ⟨span⟩
  | unresolvedMarker ordinal span =>
    s!"Cannot resolve a column for bind marker #{ordinal} at position {span.start}"
  | unbalancedParenthesis span => s!"Unbalanced parenthesis at position {span.start}"

def shift (markers octets : Nat) : ResolveError → ResolveError
  | noExpression => noExpression
  | unterminatedLiteral span => unterminatedLiteral (span.shift octets)
  | unresolvedMarker ordinal span => unresolvedMarker (ordinal + markers) (span.shift octets)
  | unbalancedParenthesis span => unbalancedParenthesis (span.shift octets)

end ResolveError

end BindStream
