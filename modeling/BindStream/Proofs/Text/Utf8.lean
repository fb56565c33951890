import Mathlib
import BindStream.Text.Utf8

namespace BindStream.Text

/-! UTF-8: octets decode to the text that they encode, and to no other. -/

def IsTail (b : UInt8) : Prop := 0x80 ≤ b.toNat ∧ b.toNat ≤ 0xBF

/-- The octets of a code point. The bounds on a second octet leave out overlong forms, surrogates
and code points above U+10FFFF. -/
inductive Spelled (n : Nat) : List UInt8 → Prop
  | one {a : UInt8} (lead : a.toNat < 0x80) (code : n = a.toNat) : Spelled n [a]
  | two {a b : UInt8} (lead : 0xC2 ≤ a.toNat ∧ a.toNat ≤ 0xDF) (second : IsTail b)
      (code : n = (a.toNat - 0xC0) * 0x40 + (b.toNat - 0x80)) : Spelled n [a, b]
  | three {a b c : UInt8} (lead : 0xE0 ≤ a.toNat ∧ a.toNat ≤ 0xEF) (second : IsTail b)
      (low : a.toNat = 0xE0 → 0xA0 ≤ b.toNat) (high : a.toNat = 0xED → b.toNat ≤ 0x9F)
      (third : IsTail c)
      (code : n = ((a.toNat - 0xE0) * 0x40 + (b.toNat - 0x80)) * 0x40 + (c.toNat - 0x80)) :
      Spelled n [a, b, c]
  | four {a b c d : UInt8} (lead : 0xF0 ≤ a.toNat ∧ a.toNat ≤ 0xF4) (second : IsTail b)
      (low : a.toNat = 0xF0 → 0x90 ≤ b.toNat) (high : a.toNat = 0xF4 → b.toNat ≤ 0x8F)
      (third : IsTail c) (fourth : IsTail d)
      (code : n = (((a.toNat - 0xF0) * 0x40 + (b.toNat - 0x80)) * 0x40 + (c.toNat - 0x80)) * 0x40 +
        (d.toNat - 0x80)) : Spelled n [a, b, c, d]

variable {n : Nat} {b : UInt8} {octets rest : List UInt8} {s : List Char}

/-! The octets of a character. -/

theorem ofNat_eq {m : Nat} (same : b.toNat = m) : UInt8.ofNat m = b := by
  rw [← same, UInt8.ofNat_toNat]

theorem utf8EncodeChar_eq (c : Char) :
    String.utf8EncodeChar c =
      if c.toNat ≤ 0x7F then [UInt8.ofNat c.toNat]
      else if c.toNat ≤ 0x7FF then
        [UInt8.ofNat (c.toNat / 64 % 32 + 192), UInt8.ofNat (c.toNat % 64 + 128)]
      else if c.toNat ≤ 0xFFFF then
        [UInt8.ofNat (c.toNat / 4096 % 16 + 224), UInt8.ofNat (c.toNat / 64 % 64 + 128),
          UInt8.ofNat (c.toNat % 64 + 128)]
      else
        [UInt8.ofNat (c.toNat / 262144 % 8 + 240), UInt8.ofNat (c.toNat / 4096 % 64 + 128),
          UInt8.ofNat (c.toNat / 64 % 64 + 128), UInt8.ofNat (c.toNat % 64 + 128)] := rfl

theorem spelled_utf8EncodeChar (c : Char) : Spelled c.toNat (String.utf8EncodeChar c) := by
  have valid : c.toNat.isValidChar := c.valid
  rw [utf8EncodeChar_eq]
  generalize c.toNat = n at valid
  simp only [Nat.isValidChar] at valid
  -- The bounds of each case keep its octets below 0x100.
  split
  · apply Spelled.one <;> simp only [UInt8.toNat_ofNat'] <;> omega
  split
  · apply Spelled.two <;> simp only [IsTail, UInt8.toNat_ofNat'] <;> omega
  split
  · apply Spelled.three <;> simp only [IsTail, UInt8.toNat_ofNat'] <;> omega
  · apply Spelled.four <;> simp only [IsTail, UInt8.toNat_ofNat'] <;> omega

namespace Spelled

theorem isValidChar (spelled : Spelled n octets) : n.isValidChar := by
  cases spelled <;> simp only [IsTail, Nat.isValidChar] at * <;> omega

theorem utf8EncodeChar (spelled : Spelled n octets) :
    String.utf8EncodeChar (Char.ofNat n) = octets := by
  have code : (Char.ofNat n).toNat = n := by
    rw [Char.toNat_ofNat, if_pos spelled.isValidChar]
  rw [utf8EncodeChar_eq, code]
  cases spelled with
  | one lead code => rw [if_pos (by omega), ofNat_eq code.symm]
  | @two a b lead second code =>
      simp only [IsTail] at second
      rw [if_neg (by omega), if_pos (by omega), ofNat_eq (b := a) (by omega),
        ofNat_eq (b := b) (by omega)]
  | @three a b c lead second low high third code =>
      simp only [IsTail] at second third
      rw [if_neg (by omega), if_neg (by omega), if_pos (by omega), ofNat_eq (b := a) (by omega),
        ofNat_eq (b := b) (by omega), ofNat_eq (b := c) (by omega)]
  | @four a b c d lead second low high third fourth code =>
      simp only [IsTail] at second third fourth
      rw [if_neg (by omega), if_neg (by omega), if_neg (by omega), ofNat_eq (b := a) (by omega),
        ofNat_eq (b := b) (by omega), ofNat_eq (b := c) (by omega), ofNat_eq (b := d) (by omega)]

theorem ne_nil (spelled : Spelled n octets) : octets ≠ [] := by
  cases spelled <;> simp

end Spelled

/-! What the decoder makes of the octets of a code point. -/

theorem ofLead_two {m : Nat} (lead : 0xC2 ≤ m ∧ m ≤ 0xDF) :
    Unfinished.ofLead m = some ⟨1, 0x80, 0xBF, m - 0xC0⟩ := by
  rw [Unfinished.ofLead, if_neg (by omega), if_pos (by omega)]

theorem ofLead_three {m : Nat} (lead : 0xE0 ≤ m ∧ m ≤ 0xEF) :
    Unfinished.ofLead m =
      some ⟨2, if m = 0xE0 then 0xA0 else 0x80, if m = 0xED then 0x9F else 0xBF, m - 0xE0⟩ := by
  rw [Unfinished.ofLead, if_neg (by omega), if_neg (by omega)]
  by_cases first : m = 0xE0
  · subst first
    rfl
  by_cases surrogate : m = 0xED
  · subst surrogate
    rfl
  rw [if_neg first, if_neg surrogate, if_pos (by omega), if_neg first, if_neg surrogate]

theorem ofLead_four {m : Nat} (lead : 0xF0 ≤ m ∧ m ≤ 0xF4) :
    Unfinished.ofLead m =
      some ⟨3, if m = 0xF0 then 0x90 else 0x80, if m = 0xF4 then 0x8F else 0xBF, m - 0xF0⟩ := by
  rw [Unfinished.ofLead, if_neg (by omega), if_neg (by omega), if_neg (by omega),
    if_neg (by omega), if_neg (by omega)]
  by_cases first : m = 0xF0
  · subst first
    rfl
  by_cases last : m = 0xF4
  · subst last
    rfl
  rw [if_neg first, if_pos (by omega), if_neg first, if_neg last]

theorem ofLead_cases {m : Nat} {u : Unfinished} (lead : Unfinished.ofLead m = some u) :
    (0xC2 ≤ m ∧ m ≤ 0xDF) ∨ (0xE0 ≤ m ∧ m ≤ 0xEF) ∨ (0xF0 ≤ m ∧ m ≤ 0xF4) := by
  by_contra outside
  have none : Unfinished.ofLead m = none := by
    unfold Unfinished.ofLead
    split_ifs <;> first | rfl | omega
  rw [none] at lead
  cases lead

variable {owed low high bits : Nat} {u : Unfinished}

theorem decodeFrom_ascii (lead : b.toNat < 0x80) :
    decodeFrom none (b :: rest) = (decodeFrom none rest).map (Char.ofNat b.toNat :: ·) := by
  rw [decodeFrom, if_pos lead]

theorem decodeFrom_lead (longer : 0x80 ≤ b.toNat) (lead : Unfinished.ofLead b.toNat = some u) :
    decodeFrom none (b :: rest) = decodeFrom (some u) rest := by
  rw [decodeFrom, if_neg (by omega), lead]

theorem decodeFrom_last (within : low ≤ b.toNat ∧ b.toNat ≤ high) :
    decodeFrom (some ⟨1, low, high, bits⟩) (b :: rest) =
      (decodeFrom none rest).map (Char.ofNat (bits * 0x40 + (b.toNat - 0x80)) :: ·) := by
  rw [decodeFrom, if_pos within]
  exact if_pos rfl

theorem decodeFrom_next (within : low ≤ b.toNat ∧ b.toNat ≤ high) :
    decodeFrom (some ⟨owed + 2, low, high, bits⟩) (b :: rest) =
      decodeFrom (some ⟨owed + 1, 0x80, 0xBF, bits * 0x40 + (b.toNat - 0x80)⟩) rest := by
  rw [decodeFrom, if_pos within]
  exact if_neg (by simp)

/-- What the bounds on a second octet say. -/
theorem within_iff {p q : Prop} [Decidable p] [Decidable q] (lowest : 0x80 ≤ low)
    (highest : high ≤ 0xBF) :
    ((if p then low else 0x80) ≤ b.toNat ∧ b.toNat ≤ if q then high else 0xBF) ↔
      IsTail b ∧ (p → low ≤ b.toNat) ∧ (q → b.toNat ≤ high) := by
  unfold IsTail
  by_cases first : p <;> by_cases last : q <;> simp [first, last] <;> omega

theorem Spelled.decodeFrom (spelled : Spelled n octets) (rest : List UInt8) :
    decodeFrom none (octets ++ rest) = (decodeFrom none rest).map (Char.ofNat n :: ·) := by
  cases spelled with
  | one lead code => rw [List.singleton_append, decodeFrom_ascii lead, code]
  | two lead second code =>
      rw [List.cons_append, decodeFrom_lead (by omega) (ofLead_two lead), List.singleton_append,
        decodeFrom_last second, code]
  | @three a b c lead second low high third code =>
      have bounds : (if a.toNat = 0xE0 then 0xA0 else 0x80) ≤ b.toNat ∧
          b.toNat ≤ if a.toNat = 0xED then 0x9F else 0xBF :=
        (within_iff (by decide) (by decide)).mpr ⟨second, low, high⟩
      rw [List.cons_append, decodeFrom_lead (by omega) (ofLead_three lead), List.cons_append,
        decodeFrom_next bounds, List.singleton_append, decodeFrom_last third, code]
  | @four a b c d lead second low high third fourth code =>
      have bounds : (if a.toNat = 0xF0 then 0x90 else 0x80) ≤ b.toNat ∧
          b.toNat ≤ if a.toNat = 0xF4 then 0x8F else 0xBF :=
        (within_iff (by decide) (by decide)).mpr ⟨second, low, high⟩
      rw [List.cons_append, decodeFrom_lead (by omega) (ofLead_four lead), List.cons_append,
        decodeFrom_next bounds, List.cons_append, decodeFrom_next third, List.singleton_append,
        decodeFrom_last fourth, code]

/-! Octets that decode begin with those of a code point. -/

theorem exists_of_decodeFrom
    (decoded : decodeFrom (some ⟨owed, low, high, bits⟩) octets = some s) :
    ∃ b rest, octets = b :: rest ∧ low ≤ b.toNat ∧ b.toNat ≤ high := by
  cases octets with
  | nil => cases decoded
  | cons b rest =>
      rw [decodeFrom] at decoded
      split at decoded
      · next within => exact ⟨b, rest, rfl, within⟩
      · cases decoded

theorem exists_spelled_of_decodeFrom (decoded : decodeFrom none (b :: octets) = some s) :
    ∃ n spelling rest, Spelled n spelling ∧ b :: octets = spelling ++ rest := by
  by_cases ascii : b.toNat < 0x80
  · exact ⟨b.toNat, [b], octets, .one ascii rfl, rfl⟩
  cases lead : Unfinished.ofLead b.toNat with
  | none =>
      rw [decodeFrom, if_neg ascii, lead] at decoded
      cases decoded
  | some u =>
      rw [decodeFrom_lead (by omega) lead] at decoded
      rcases ofLead_cases lead with two | three | four
      · rw [ofLead_two two] at lead
        cases lead
        obtain ⟨c, rest, rfl, second⟩ := exists_of_decodeFrom decoded
        exact ⟨_, [b, c], rest, .two two second rfl, rfl⟩
      · rw [ofLead_three three] at lead
        cases lead
        obtain ⟨c, rest, rfl, second⟩ := exists_of_decodeFrom decoded
        rw [decodeFrom_next second] at decoded
        obtain ⟨d, rest, rfl, third⟩ := exists_of_decodeFrom decoded
        obtain ⟨tail, low, high⟩ := (within_iff (by decide) (by decide)).mp second
        exact ⟨_, [b, c, d], rest, .three three tail low high third rfl, rfl⟩
      · rw [ofLead_four four] at lead
        cases lead
        obtain ⟨c, rest, rfl, second⟩ := exists_of_decodeFrom decoded
        rw [decodeFrom_next second] at decoded
        obtain ⟨d, rest, rfl, third⟩ := exists_of_decodeFrom decoded
        rw [decodeFrom_next third] at decoded
        obtain ⟨e, rest, rfl, fourth⟩ := exists_of_decodeFrom decoded
        obtain ⟨tail, low, high⟩ := (within_iff (by decide) (by decide)).mp second
        exact ⟨_, [b, c, d, e], rest, .four four tail low high third fourth rfl, rfl⟩

/-! Texts. -/

theorem encode_cons (c : Char) (s : List Char) :
    encode (c :: s) = String.utf8EncodeChar c ++ encode s := List.flatMap_cons

@[simp] theorem encode_nil : encode [] = [] := rfl

@[simp] theorem encode_append (s t : List Char) : encode (s ++ t) = encode s ++ encode t :=
  List.flatMap_append

theorem decode_encode (s : List Char) : decode (encode s) = some s := by
  induction s with
  | nil => rfl
  | cons c s ih =>
      rw [decode, encode_cons, (spelled_utf8EncodeChar c).decodeFrom, Char.ofNat_toNat]
      rw [decode] at ih
      rw [ih]
      rfl

theorem eq_encode_of_decode (decoded : decode octets = some s) : octets = encode s := by
  induction length_eq : octets.length using Nat.strong_induction_on generalizing octets s with
  | _ length ih =>
    cases octets with
    | nil =>
        cases decoded
        rfl
    | cons b octets =>
        obtain ⟨n, spelling, rest, spelled, split⟩ := exists_spelled_of_decodeFrom decoded
        rw [split, decode, spelled.decodeFrom] at decoded
        obtain ⟨s, decodedRest, rfl⟩ := Option.map_eq_some_iff.mp decoded
        have shorter : rest.length < length := by
          rw [← length_eq, split, List.length_append]
          have := List.length_pos_iff.mpr spelled.ne_nil
          omega
        rw [split, encode_cons, spelled.utf8EncodeChar, ← ih _ shorter decodedRest rfl]

theorem decode_eq_some_iff : decode octets = some s ↔ octets = encode s := by
  constructor
  · exact eq_encode_of_decode
  · rintro rfl
    exact decode_encode s

end BindStream.Text
