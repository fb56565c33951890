import BindStream.Keyword
import BindStream.Span
import BindStream.Text.Quoted
import BindStream.Text.UpperCase

namespace BindStream

/-! The tokens of a statement. -/

inductive TokenKind
  | identifier
  | quotedIdentifier
  | keyword (keyword : Keyword)
  | operator
  | quoted
  | number
  | marker
  | leftParen
  | rightParen
  | comma
  | semicolon
  deriving DecidableEq, Repr

/-- A token with its text, delimiters included, and its place in the statement. -/
structure Token where
  kind : TokenKind
  text : String
  span : Span
  deriving DecidableEq, Repr

namespace Token

def isMarker (token : Token) : Bool := token.kind == .marker

/-- The column that a name stands for: upper-cased, and a quoted name without its delimiters. -/
def columnName (token : Token) : Option String :=
  match token.kind with
  | .identifier => some (String.ofList (Text.upper token.text.toList))
  | .quotedIdentifier =>
    let name := Text.undouble '`' (Text.interior token.text.toList)
    some (String.ofList (Text.upper name))
  | _ => none

def shift (n : Nat) (token : Token) : Token := { token with span := token.span.shift n }

end Token

end BindStream
