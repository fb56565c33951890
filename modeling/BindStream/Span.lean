import BindStream.Text.Utf8

namespace BindStream

/-! Ranges of octets in a statement text. -/

structure Span where
  start : Nat
  stop : Nat
  deriving DecidableEq, Repr

namespace Span

/-- Offsets are machine words of 64 bits. -/
def offsetLimit : Nat := Nat.pow 2 64

instance : Inhabited Span := ⟨⟨0, 0⟩⟩

/-- The span of one octet at `offset`; `none` if its end is no offset. -/
def at? (offset : Nat) : Option Span :=
  if offset + 1 < offsetLimit then some ⟨offset, offset + 1⟩ else none

/-- The length; `none` for a span that ends before it starts. -/
def length? (span : Span) : Option Nat :=
  if span.start ≤ span.stop then some (span.stop - span.start) else none

def isEmpty (span : Span) : Bool := span.start == span.stop

def shift (n : Nat) (span : Span) : Span := ⟨span.start + n, span.stop + n⟩

/-- The part of `source` that a span covers; `none` if it does not lie in the text, cuts a
character or ends before it starts. -/
def slice? (span : Span) (source : String) : Option String := do
  let (_, after) ← Text.splitBytes span.start source.toList
  let (covered, _) ← Text.splitBytes (← span.length?) after
  return String.ofList covered

def display (span : Span) : String := s!"{span.start}..{span.stop}"

end Span

end BindStream
