import BindStream.Proofs.Token.Quotation
import BindStream.Token.Scan

namespace BindStream

open Text

/-! A space or a line break ends the token before it: what is read of a text in front of one is
read of the text alone. -/

namespace Text

def Separates (gap : List Char) : Prop := ∃ c s, gap = c :: s ∧ (c = ' ' ∨ c = '\n')

theorem separates_space (s : List Char) : Separates (' ' :: s) := ⟨' ', s, rfl, .inl rfl⟩

theorem separates_newline (s : List Char) : Separates ('\n' :: s) := ⟨'\n', s, rfl, .inr rfl⟩

variable {gap : List Char}

theorem takeWhile_append_stop {p : Char → Bool} {c : Char} (stops : p c = false)
    (s t : List Char) : (s ++ c :: t).takeWhile p = s.takeWhile p := by
  induction s with
  | nil => simp [stops]
  | cons d s ih => rw [List.cons_append, List.takeWhile_cons, List.takeWhile_cons, ih]

theorem dropWhile_append_stop {p : Char → Bool} {c : Char} (stops : p c = false)
    (s t : List Char) : (s ++ c :: t).dropWhile p = s.dropWhile p ++ c :: t := by
  induction s with
  | nil => simp [stops]
  | cons d s ih =>
      rw [List.cons_append, List.dropWhile_cons, List.dropWhile_cons, ih]
      split <;> rfl

/-- A character that no word, number or operator goes on with. -/
def Stops (c : Char) : Prop :=
  inWord c = false ∧ c ∉ ['.', '+', '-', '*', '=', '>', '<', '|', ':']

instance (c : Char) : Decidable (Stops c) := inferInstanceAs (Decidable (_ ∧ _))

theorem exists_stop_of_separates (separates : Separates gap) :
    ∃ c t, gap = c :: t ∧ Stops c ∧ (c = ' ' ∨ c = '\n') := by
  obtain ⟨c, t, rfl, rfl | rfl⟩ := separates
  · exact ⟨' ', t, rfl, by decide, .inl rfl⟩
  · exact ⟨'\n', t, rfl, by decide, .inr rfl⟩

theorem mem_of_mem_operatorSeconds {c d : Char} (second : d ∈ operatorSeconds c) :
    d ∈ ['=', '>', '<', '|', ':'] := by
  unfold operatorSeconds at second
  split at second
  case h_6 => cases second
  all_goals
    simp only [List.mem_cons, List.not_mem_nil, or_false] at second
    obtain rfl | rfl | rfl := second <;> decide

namespace Stops

variable {c : Char}

theorem isDigit (stops : Stops c) : c.isDigit = false := by
  cases digit : c.isDigit with
  | false => rfl
  | true =>
      have numeric := stops.1
      simp only [inWord, isNumeric_of_isDigit digit, Bool.or_true, Bool.true_or] at numeric
      cases numeric

theorem ne_of_inWord (stops : Stops c) {d : Char} (within : inWord d = true) : c ≠ d := by
  rintro rfl
  cases stops.1.symm.trans within

theorem ne_of_mem (stops : Stops c) {d : Char}
    (member : d ∈ ['.', '+', '-', '*', '=', '>', '<', '|', ':']) : c ≠ d := by
  rintro rfl
  exact stops.2 member

theorem not_mem_operatorSeconds (stops : Stops c) (d : Char) : c ∉ operatorSeconds d := by
  intro second
  have listed := mem_of_mem_operatorSeconds second
  exact stops.2 (List.mem_append_right ['.', '+', '-', '*'] listed)

end Stops

section Stopped

variable {c : Char} (stops : Stops c) (s t : List Char)
include stops

theorem digits_append_stop : digits (s ++ c :: t) = ((digits s).1, (digits s).2 ++ c :: t) := by
  rw [digits, takeWhile_append_stop stops.isDigit, dropWhile_append_stop stops.isDigit, digits]

theorem fraction_append_stop :
    fraction (s ++ c :: t) = ((fraction s).1, (fraction s).2 ++ c :: t) := by
  have notPoint : c ≠ '.' := stops.ne_of_mem (by decide)
  match s with
  | [] => simp [fraction, notPoint]
  | [a] =>
      by_cases point : a = '.'
      · subst point
        simp [fraction, stops.isDigit]
      · simp [fraction, point]
  | a :: d :: s =>
      by_cases point : a = '.'
      · subst point
        simp only [List.cons_append, fraction]
        split
        · have split := digits_append_stop stops (d :: s) t
          rw [List.cons_append] at split
          rw [split]
        · rfl
      · simp [fraction, point]

theorem exponent_append_stop :
    exponent (s ++ c :: t) = ((exponent s).1, (exponent s).2 ++ c :: t) := by
  have notE : ¬(c = 'e' ∨ c = 'E') :=
    not_or.mpr ⟨stops.ne_of_inWord (by decide), stops.ne_of_inWord (by decide)⟩
  have notSign : ¬(c = '+' ∨ c = '-') :=
    not_or.mpr ⟨stops.ne_of_mem (by decide), stops.ne_of_mem (by decide)⟩
  match s with
  | [] =>
      cases t with
      | nil => rfl
      | cons d t => simp only [List.nil_append, exponent, notE, if_false]
  | [e] => simp only [List.cons_append, List.nil_append, exponent, notSign, stops.isDigit,
      if_false, Bool.false_eq_true, ite_self]
  | e :: x :: s =>
      simp only [List.cons_append, exponent]
      split
      · split
        · rw [digits_append_stop stops]
        · split
          · have split := digits_append_stop stops (x :: s) t
            rw [List.cons_append] at split
            rw [split]
          · rfl
      · rfl

theorem numberTail_append_stop :
    numberTail (s ++ c :: t) = ((numberTail s).1, (numberTail s).2 ++ c :: t) := by
  simp only [numberTail, digits_append_stop stops, fraction_append_stop stops,
    exponent_append_stop stops]

theorem operatorTail_append_stop (d : Char) :
    operatorTail d (s ++ c :: t) = ((operatorTail d s).1, (operatorTail d s).2 ++ c :: t) := by
  cases s with
  | nil => exact if_neg (stops.not_mem_operatorSeconds d)
  | cons e s =>
      simp only [List.cons_append, operatorTail]
      split <;> rfl

end Stopped

theorem closeQuote_append_stop {q c : Char} {s body rest : List Char} (other : c ≠ q)
    (closed : closeQuote q s = some (body, rest)) (t : List Char) :
    closeQuote q (s ++ c :: t) = some (body, rest ++ c :: t) := by
  obtain ⟨inner, doubled, rfl, ends⟩ := closeQuote_eq_some_iff.mp closed
  refine closeQuote_eq_some_iff.mpr ⟨inner, doubled, List.append_assoc .., ?_⟩
  cases rest with
  | nil => exact fun same => other (Option.some.inj same)
  | cons d rest => exact ends

end Text

variable {gap : List Char} {c : Char} {s text rest : List Char} {kind : TokenKind}

theorem isBlank_of_gapHead_none (noGap : gapHead c s = none) : isBlank c = false := by
  unfold gapHead at noGap
  split at noGap
  · cases noGap
  · cases noGap
  · split at noGap
    · cases noGap
    · next solid => exact Bool.eq_false_iff.mpr solid

theorem gapHead_of_isBlank (blank : isBlank c = true) (s : List Char) :
    gapHead c s = some (c :: s.takeWhile isBlank, s.dropWhile isBlank) := by
  unfold gapHead
  split
  · cases blank
  · cases blank
  · exact if_pos blank

theorem gapHead_append_separator (separates : Separates gap) (noGap : gapHead c s = none) :
    gapHead c (s ++ gap) = none := by
  have solid : isBlank c = false := isBlank_of_gapHead_none noGap
  cases s with
  | nil =>
      obtain ⟨d, t, rfl, blank⟩ := separates
      have line : d ≠ '-' := by rcases blank with rfl | rfl <;> decide
      have block : d ≠ '*' := by rcases blank with rfl | rfl <;> decide
      rw [List.nil_append]
      unfold gapHead
      split
      · next same => exact absurd (List.cons.inj same).1 line
      · next same => exact absurd (List.cons.inj same).1 block
      · rw [solid]
        rfl
  | cons d s =>
      rw [List.cons_append]
      unfold gapHead at noGap ⊢
      split at noGap
      · cases noGap
      · cases noGap
      · next line block =>
          split
          · next same =>
              cases same
              exact absurd rfl (line s rfl)
          · next same =>
              cases same
              exact absurd rfl (block s rfl)
          · rw [solid]
            rfl

theorem tokenHead_append_separator (separates : Separates gap)
    (headed : tokenHead c s = some (kind, text, rest)) :
    tokenHead c (s ++ gap) = some (kind, text, rest ++ gap) := by
  obtain ⟨d, t, rfl, stops, blank⟩ := exists_stop_of_separates separates
  unfold tokenHead at headed ⊢
  split at headed
  · cases headed
    rfl
  · split at headed
    · next delimiter =>
        obtain ⟨⟨body, rest⟩, closed, same⟩ := Option.map_eq_some_iff.mp headed
        cases same
        have other : d ≠ c := by
          rintro rfl
          rcases blank with rfl | rfl <;> cases delimiter
        rw [closeQuote_append_stop other closed]
        rfl
    · split at headed
      · next digit =>
          cases headed
          rw [if_pos digit, numberTail_append_stop stops]
      · next noDigit =>
          rw [if_neg noDigit]
          split at headed
          · next word =>
              cases headed
              rw [if_pos word, takeWhile_append_stop stops.1, dropWhile_append_stop stops.1]
          · next noWord =>
              cases headed
              rw [if_neg noWord, operatorTail_append_stop stops]

theorem gapHead_of_head (headed : Piece.head c s = some (.token kind text, rest)) :
    gapHead c s = none := by
  unfold Piece.head at headed
  split at headed
  · cases headed
  · next noGap => exact noGap

theorem Piece.head_append_separator (separates : Separates gap)
    (headed : Piece.head c s = some (.token kind text, rest)) :
    Piece.head c (s ++ gap) = some (.token kind text, rest ++ gap) := by
  unfold Piece.head at headed ⊢
  split at headed
  · cases headed
  · next noGap =>
      obtain ⟨⟨kind, text, rest⟩, headed, same⟩ := Option.map_eq_some_iff.mp headed
      cases same
      rw [gapHead_append_separator separates noGap, tokenHead_append_separator separates headed]
      rfl

end BindStream
