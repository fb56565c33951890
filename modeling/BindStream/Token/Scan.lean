import BindStream.Token.Piece

namespace BindStream

/-! The tokens of a text, with their places. -/

/-- A quoted text without its end, from its delimiter to the end of the statement. -/
structure UnterminatedLiteral where
  span : Span
  deriving DecidableEq, Repr

def UnterminatedLiteral.message (failure : UnterminatedLiteral) : String :=
  s!"Unterminated literal starting at position {failure.span.start}"

/-- The tokens among pieces that begin at octet `start`. -/
def Piece.tokens (start : Nat) : List Piece → List Token
  | [] => []
  | .gap text :: pieces => tokens (start + Text.byteLength text) pieces
  | .token kind text :: pieces =>
    let stop := start + Text.byteLength text
    ⟨kind, String.ofList text, ⟨start, stop⟩⟩ :: tokens stop pieces

/-- The tokens up to the first failure, and the failure. -/
structure Scan where
  tokens : List Token
  failure : Option UnterminatedLiteral
  deriving DecidableEq, Repr

def Scan.ofChars (s : List Char) : Scan :=
  let (pieces, unread) := Piece.split s
  let stop := Text.byteLength s
  { tokens := Piece.tokens 0 pieces
    failure := if unread.isEmpty then none else some ⟨⟨stop - Text.byteLength unread, stop⟩⟩ }

def scan (text : String) : Scan := Scan.ofChars text.toList

def tokenize (text : String) : Except UnterminatedLiteral (List Token) :=
  match (scan text).failure with
  | some failure => .error failure
  | none => .ok (scan text).tokens

/-- The number of bind markers, counted up to a quoted text without its end. -/
def countMarkers (text : String) : Nat := (scan text).tokens.countP Token.isMarker

end BindStream
