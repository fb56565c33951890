namespace BindStream.Text

/-! UTF-8: lengths and cuts in octets, decoding, and the part of a text that fits a number of
octets. -/

def byteLength : List Char → Nat
  | [] => 0
  | c :: s => c.utf8Size + byteLength s

@[simp] theorem byteLength_nil : byteLength [] = 0 := rfl

@[simp] theorem byteLength_cons (c : Char) (s : List Char) :
    byteLength (c :: s) = c.utf8Size + byteLength s := rfl

@[simp] theorem byteLength_append (s t : List Char) :
    byteLength (s ++ t) = byteLength s + byteLength t := by
  induction s with
  | nil => simp
  | cons c s ih => simp [ih, Nat.add_assoc]

/-- Splits a text after `n` octets; `none` beyond its end or inside a character. -/
def splitBytes : Nat → List Char → Option (List Char × List Char)
  | 0, s => some ([], s)
  | _ + 1, [] => none
  | n + 1, c :: s =>
    if c.utf8Size ≤ n + 1 then
      (splitBytes (n + 1 - c.utf8Size) s).map fun (before, after) => (c :: before, after)
    else none

@[simp] theorem splitBytes_zero (s : List Char) : splitBytes 0 s = some ([], s) := by
  cases s <;> rfl

theorem splitBytes_append (s t : List Char) :
    splitBytes (byteLength s) (s ++ t) = some (s, t) := by
  induction s with
  | nil => simp
  | cons c s ih =>
    have positive := c.utf8Size_pos
    obtain ⟨n, hn⟩ : ∃ n, byteLength (c :: s) = n + 1 := ⟨c.utf8Size - 1 + byteLength s, by
      rw [byteLength_cons]
      omega⟩
    rw [hn, List.cons_append, splitBytes]
    rw [byteLength_cons] at hn
    have fits : c.utf8Size ≤ n + 1 := by omega
    have remaining : n + 1 - c.utf8Size = byteLength s := by omega
    simp [fits, remaining, ih]

/-- The longest beginning of a text that `room` octets hold; a character cut in two leaves the
replacement character. -/
def fitting : Nat → List Char → List Char
  | _, [] => []
  | room, c :: s =>
    if c.utf8Size ≤ room then c :: fitting (room - c.utf8Size) s
    else if room = 0 then [] else ['\uFFFD']

/-- A character whose first octets have been read: how many are owed, the bounds on the next
one, and the bits read so far. -/
structure Unfinished where
  owed : Nat
  low : Nat
  high : Nat
  bits : Nat

/-- What the first octet of a longer character announces. The bounds on the second octet leave
out overlong forms, surrogates and code points above U+10FFFF. -/
def Unfinished.ofLead (b : Nat) : Option Unfinished :=
  if b < 0xC2 then none
  else if b < 0xE0 then some ⟨1, 0x80, 0xBF, b - 0xC0⟩
  else if b = 0xE0 then some ⟨2, 0xA0, 0xBF, 0⟩
  else if b = 0xED then some ⟨2, 0x80, 0x9F, 0xD⟩
  else if b < 0xF0 then some ⟨2, 0x80, 0xBF, b - 0xE0⟩
  else if b = 0xF0 then some ⟨3, 0x90, 0xBF, 0⟩
  else if b < 0xF4 then some ⟨3, 0x80, 0xBF, b - 0xF0⟩
  else if b = 0xF4 then some ⟨3, 0x80, 0x8F, 4⟩
  else none

def decodeFrom : Option Unfinished → List UInt8 → Option (List Char)
  | none, [] => some []
  | some _, [] => none
  | none, b :: rest =>
    if b.toNat < 0x80 then (decodeFrom none rest).map (Char.ofNat b.toNat :: ·)
    else
      match Unfinished.ofLead b.toNat with
      | none => none
      | some next => decodeFrom (some next) rest
  | some u, b :: rest =>
    if u.low ≤ b.toNat ∧ b.toNat ≤ u.high then
      let bits := u.bits * 0x40 + (b.toNat - 0x80)
      if u.owed = 1 then (decodeFrom none rest).map (Char.ofNat bits :: ·)
      else decodeFrom (some ⟨u.owed - 1, 0x80, 0xBF, bits⟩) rest
    else none

/-- The text that a sequence of octets spells, if it is well-formed. -/
def decode (octets : List UInt8) : Option (List Char) := decodeFrom none octets

def encode (s : List Char) : List UInt8 := s.flatMap String.utf8EncodeChar

end BindStream.Text
