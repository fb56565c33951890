import BindStream.Token.Scan

namespace BindStream

open Text

/-! A statement text read one token at a time. -/

/-- What is left of a text and where it begins. A reader that has failed yields nothing more. -/
structure TokenReader where
  unread : List Char
  position : Nat
  failed : Bool
  deriving DecidableEq, Repr

namespace TokenReader

def start (text : String) : TokenReader := ⟨text.toList, 0, false⟩

/-- The first token of what is left of a text, or the failure, and the reader behind it. -/
def nextFrom (position : Nat) :
    List Char → Option (Except UnterminatedLiteral Token) × TokenReader
  | [] => (none, ⟨[], position, false⟩)
  | c :: s =>
    match h : Piece.head c s with
    | none =>
      let stop := position + byteLength (c :: s)
      (some (.error ⟨⟨position, stop⟩⟩), ⟨[], stop, true⟩)
    | some (.gap text, rest) =>
      have := Piece.head_rest_length h
      nextFrom (position + byteLength text) rest
    | some (.token kind text, rest) =>
      let stop := position + byteLength text
      (some (.ok ⟨kind, String.ofList text, ⟨position, stop⟩⟩), ⟨rest, stop, false⟩)
termination_by s => s.length
decreasing_by exact this

def next (reader : TokenReader) : Option (Except UnterminatedLiteral Token) × TokenReader :=
  if reader.failed then (none, reader) else nextFrom reader.position reader.unread

/-- What the reader yields when it is asked once more behind `n` times. -/
def yields (reader : TokenReader) : Nat → Option (Except UnterminatedLiteral Token)
  | 0 => reader.next.1
  | n + 1 => reader.next.2.yields n

variable {c : Char} {s text rest : List Char} {position : Nat} {kind : TokenKind}

theorem nextFrom_nil (position : Nat) : nextFrom position [] = (none, ⟨[], position, false⟩) := by
  rw [nextFrom]

theorem nextFrom_of_head_none (unheaded : Piece.head c s = none) :
    nextFrom position (c :: s) =
      (some (.error ⟨⟨position, position + byteLength (c :: s)⟩⟩),
        ⟨[], position + byteLength (c :: s), true⟩) := by
  rw [nextFrom]
  split <;> simp_all

theorem nextFrom_of_gap (headed : Piece.head c s = some (.gap text, rest)) :
    nextFrom position (c :: s) = nextFrom (position + byteLength text) rest := by
  rw [nextFrom]
  split <;> simp_all

theorem nextFrom_of_token (headed : Piece.head c s = some (.token kind text, rest)) :
    nextFrom position (c :: s) =
      (some (.ok ⟨kind, String.ofList text, ⟨position, position + byteLength text⟩⟩),
        ⟨rest, position + byteLength text, false⟩) := by
  rw [nextFrom]
  split <;> simp_all

end TokenReader

end BindStream
