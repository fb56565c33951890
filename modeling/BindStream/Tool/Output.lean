import BindStream.Text.Utf8

namespace BindStream

/-! Text written to a device that may hold only so many octets. -/

structure Output where
  text : String
  /-- The octets for which there is still room; `none` for any number. -/
  room : Option Nat
  deriving DecidableEq, Repr

namespace Output

def empty (room : Option Nat) : Output := ⟨"", room⟩

/-- Writes a text as far as there is room, and tells whether all of it was written. -/
def write (output : Output) (text : String) : Output × Bool :=
  match output.room with
  | none => (⟨output.text ++ text, none⟩, true)
  | some room =>
    let size := Text.byteLength text.toList
    if size ≤ room then (⟨output.text ++ text, some (room - size)⟩, true)
    else (⟨output.text ++ String.ofList (Text.fitting room text.toList), some 0⟩, false)

end Output

end BindStream
