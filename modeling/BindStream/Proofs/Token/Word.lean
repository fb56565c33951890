import Mathlib.Data.List.TakeWhile
import BindStream.Proofs.Token.Lexeme

namespace BindStream

open Text

/-! Words and quoted texts, written as lexemes. -/

namespace Text

theorem exists_of_inRanges {n : Nat} {ranges : List (Nat × Nat)}
    (inside : inRanges n ranges = true) : ∃ range ∈ ranges, range.1 ≤ n ∧ n ≤ range.2 := by
  induction ranges with
  | nil => cases inside
  | cons range ranges ih =>
      obtain ⟨first, last⟩ := range
      rw [inRanges] at inside
      split at inside
      · cases inside
      · next above =>
          rcases Bool.or_eq_true_iff.mp inside with below | inside
          · exact ⟨(first, last), List.mem_cons_self, Nat.le_of_not_lt above,
              of_decide_eq_true below⟩
          · obtain ⟨range, member, bounds⟩ := ih inside
            exact ⟨range, List.mem_cons_of_mem _ member, bounds⟩

theorem forall_ascii {p : Char → Bool} (all : ∀ n < 0x80, p (Char.ofNat n) = true) {c : Char}
    (ascii : c.toNat < 0x80) : p c = true := by
  have here := all c.toNat ascii
  rwa [Char.ofNat_toNat] at here

theorem alphabeticRanges_disjoint_blankRanges :
    ∀ range ∈ blankRanges, ∀ n ∈ List.range' range.1 (range.2 + 1 - range.1),
      inRanges n alphabeticRanges = false := by
  decide +kernel

variable {c : Char}

theorem isBlank_of_startsWord (starts : startsWord c = true) : isBlank c = false := by
  by_cases ascii : c.toNat < 0x80
  · have all : (!startsWord c || !isBlank c) = true :=
      forall_ascii (p := fun c => !startsWord c || !isBlank c) (by decide) ascii
    rw [starts] at all
    exact (Bool.not_eq_true' _).mp all
  · cases blank : isBlank c with
    | false => rfl
    | true =>
        obtain ⟨range, member, low, high⟩ := exists_of_inRanges blank
        have disjoint := alphabeticRanges_disjoint_blankRanges range member c.toNat
          (List.mem_range'_1.mpr (by omega))
        have notUnderscore : (c == '_') = false := by
          rw [beq_eq_false_iff_ne]
          rintro rfl
          exact ascii (by decide)
        rw [startsWord, isAlphabetic, if_neg ascii, disjoint, notUnderscore] at starts
        cases starts

theorem ascii_of_isDigit (digit : c.isDigit = true) : c.toNat < 0x80 := by
  delta Char.isDigit at digit
  simp [UInt32.le_iff_toNat_le] at digit
  omega

theorem isBlank_of_isDigit (digit : c.isDigit = true) : isBlank c = false := by
  have all : (!c.isDigit || !isBlank c) = true :=
    forall_ascii (p := fun c => !c.isDigit || !isBlank c) (by decide) (ascii_of_isDigit digit)
  rw [digit] at all
  exact (Bool.not_eq_true' _).mp all

theorem isDigit_of_startsWord (starts : startsWord c = true) : c.isDigit = false := by
  by_cases ascii : c.toNat < 0x80
  · have all : (!startsWord c || !c.isDigit) = true :=
      forall_ascii (p := fun c => !startsWord c || !c.isDigit) (by decide) ascii
    rw [starts] at all
    exact (Bool.not_eq_true' _).mp all
  · cases digit : c.isDigit with
    | false => rfl
    | true => exact absurd (ascii_of_isDigit digit) ascii

end Text

variable {c : Char} {s : List Char} {kind : TokenKind}

theorem inWord_of_startsWord (starts : startsWord c = true) : inWord c = true := by
  unfold startsWord at starts
  unfold inWord
  rcases (Bool.or_eq_true _ _).mp starts with letter | underscore
  · rw [letter]
    rfl
  · rw [underscore, Bool.or_true]
    rfl

theorem gapHead_of_startsWord (starts : startsWord c = true) : gapHead c s = none := by
  unfold gapHead
  split
  · cases starts
  · cases starts
  · rw [isBlank_of_startsWord starts]
    rfl

theorem ofMark?_of_startsWord (starts : startsWord c = true) :
    TokenKind.ofMark? c = none := by
  unfold TokenKind.ofMark?
  split
  case h_6 => rfl
  all_goals cases starts

theorem ofDelimiter?_of_startsWord (starts : startsWord c = true) :
    TokenKind.ofDelimiter? c = none := by
  unfold TokenKind.ofDelimiter?
  split
  case h_4 => rfl
  all_goals cases starts

theorem split_word (starts : startsWord c = true) (within : ∀ d ∈ s, inWord d = true) :
    Piece.split (c :: s) = ([.token (.ofWord (c :: s)) (c :: s)], []) := by
  apply Piece.split_of_tokenHead (gapHead_of_startsWord starts)
  rw [tokenHead, ofMark?_of_startsWord starts, ofDelimiter?_of_startsWord starts,
    isDigit_of_startsWord starts, starts, List.takeWhile_eq_self_iff.mpr within,
    List.dropWhile_eq_nil_iff.mpr within]
  rfl

theorem gapHead_of_delimiter (delimits : TokenKind.ofDelimiter? c = some kind) :
    gapHead c s = none := by
  unfold TokenKind.ofDelimiter? at delimits
  split at delimits
  case h_4 => cases delimits
  all_goals rfl

theorem ofMark?_of_delimiter (delimits : TokenKind.ofDelimiter? c = some kind) :
    TokenKind.ofMark? c = none := by
  unfold TokenKind.ofDelimiter? at delimits
  split at delimits
  case h_4 => cases delimits
  all_goals rfl

theorem split_quoted (delimits : TokenKind.ofDelimiter? c = some kind) (s : List Char) :
    Piece.split (quoted c s) = ([.token kind (quoted c s)], []) := by
  have ends : ([] : List Char).head? ≠ some c := nofun
  apply Piece.split_of_tokenHead (gapHead_of_delimiter delimits)
  rw [tokenHead, ofMark?_of_delimiter delimits, delimits, closeQuote_double ends]
  rfl

end BindStream
