import BindStream.Proofs.Token.Grammar

namespace BindStream

open Text

/-! Numbers: what is read of one is a number by itself, and is made of few characters. -/

namespace Text

variable {c e : Char} {s t : List Char}

theorem digits_cons (digit : c.isDigit = true) (s : List Char) :
    digits (c :: s) = (c :: (digits s).1, (digits s).2) := by
  rw [digits, List.takeWhile_cons_of_pos digit, List.dropWhile_cons_of_pos digit, digits]

theorem isDigit_of_mem_digits (s : List Char) : ∀ c ∈ (digits s).1, c.isDigit = true :=
  List.all_eq_true.mp List.all_takeWhile

theorem digits_append_of_ends (s : List Char) (ends : ∀ c ∈ t.head?, c.isDigit = false) :
    digits ((digits s).1 ++ t) = ((digits s).1, t) := by
  have all := isDigit_of_mem_digits s
  rw [digits, takeWhile_append_of_ends all ends, dropWhile_append_of_ends all ends]

theorem fraction_of_digit (digit : c.isDigit = true) (s : List Char) :
    fraction ('.' :: c :: s) = ('.' :: c :: (digits s).1, (digits s).2) := by
  rw [fraction, if_pos digit, digits_cons digit]

theorem fraction_cases (s : List Char) :
    fraction s = ([], s) ∨ ∃ c t, c.isDigit = true ∧ s = '.' :: c :: t := by
  unfold fraction
  split
  · next c t =>
      split
      · next digit => exact .inr ⟨c, t, digit, rfl⟩
      · exact .inl rfl
  · exact .inl rfl

theorem fraction_append_of_ends (s : List Char)
    (ends : ∀ c ∈ t.head?, c.isDigit = false ∧ c ≠ '.') :
    fraction ((fraction s).1 ++ t) = ((fraction s).1, t) := by
  rcases fraction_cases s with none | ⟨c, s, digit, rfl⟩
  · rw [none, List.nil_append]
    rcases fraction_cases t with none | ⟨c, t, digit, rfl⟩
    · exact none
    · exact absurd rfl (ends '.' rfl).2
  · rw [fraction_of_digit digit, List.cons_append, List.cons_append, fraction_of_digit digit,
      digits_append_of_ends s fun c first => (ends c first).1]

/-- A sign or a digit, which an exponent goes on with behind its letter. -/
def StartsPower (c : Char) : Prop := c = '+' ∨ c = '-' ∨ c.isDigit = true

theorem exponent_of_startsPower (letter : e = 'e' ∨ e = 'E') (starts : StartsPower c)
    (s : List Char) : exponent (e :: c :: s) = (e :: c :: (digits s).1, (digits s).2) := by
  rw [exponent, if_pos letter]
  rcases starts with rfl | rfl | digit
  · rfl
  · rfl
  · have noSign : ¬(c = '+' ∨ c = '-') := by
      rintro (rfl | rfl) <;> cases digit
    rw [if_neg noSign, if_pos digit, digits_cons digit]

theorem exponent_cases (s : List Char) :
    exponent s = ([], s) ∨ ∃ e c t, (e = 'e' ∨ e = 'E') ∧ StartsPower c ∧ s = e :: c :: t := by
  unfold exponent
  split
  · next e c t =>
      split
      · next letter =>
          split
          · next sign =>
              exact .inr ⟨e, c, t, letter, sign.imp_right .inl, rfl⟩
          · split
            · next digit => exact .inr ⟨e, c, t, letter, .inr (.inr digit), rfl⟩
            · exact .inl rfl
      · exact .inl rfl
  · exact .inl rfl

theorem exponent_alone (s : List Char) : exponent (exponent s).1 = ((exponent s).1, []) := by
  rcases exponent_cases s with none | ⟨e, c, s, letter, starts, rfl⟩
  · rw [none]
    rfl
  · have alone := digits_append_of_ends s (t := []) nofun
    rw [List.append_nil] at alone
    rw [exponent_of_startsPower letter starts, exponent_of_startsPower letter starts, alone]

/-- The characters that a number has behind its first digit. -/
def inNumber (c : Char) : Bool := c.isDigit || ['.', 'e', 'E', '+', '-'].contains c

theorem inNumber_of_isDigit (digit : c.isDigit = true) : inNumber c = true := by
  rw [inNumber, digit]
  rfl

theorem inNumber_of_mem_digits (s : List Char) : ∀ c ∈ (digits s).1, inNumber c = true :=
  fun c member => inNumber_of_isDigit (isDigit_of_mem_digits s c member)

theorem inNumber_of_mem_fraction (s : List Char) : ∀ c ∈ (fraction s).1, inNumber c = true := by
  rcases fraction_cases s with none | ⟨d, s, digit, rfl⟩
  · rw [none]
    exact nofun
  · rw [fraction_of_digit digit, List.forall_mem_cons, List.forall_mem_cons]
    exact ⟨rfl, inNumber_of_isDigit digit, inNumber_of_mem_digits s⟩

theorem inNumber_of_mem_exponent (s : List Char) : ∀ c ∈ (exponent s).1, inNumber c = true := by
  rcases exponent_cases s with none | ⟨e, d, s, letter, starts, rfl⟩
  · rw [none]
    exact nofun
  · rw [exponent_of_startsPower letter starts, List.forall_mem_cons, List.forall_mem_cons]
    refine ⟨?_, ?_, inNumber_of_mem_digits s⟩
    · rcases letter with rfl | rfl <;> rfl
    · rcases starts with rfl | rfl | digit
      · rfl
      · rfl
      · exact inNumber_of_isDigit digit

theorem inNumber_of_mem_numberTail (s : List Char) :
    ∀ c ∈ (numberTail s).1, inNumber c = true := by
  intro c member
  rcases List.mem_append.mp member with member | power
  · rcases List.mem_append.mp member with whole | point
    · exact inNumber_of_mem_digits s c whole
    · exact inNumber_of_mem_fraction _ c point
  · exact inNumber_of_mem_exponent _ c power

theorem numberTail_alone (s : List Char) :
    numberTail (numberTail s).1 = ((numberTail s).1, []) := by
  change numberTail ((digits s).1 ++ (fraction (digits s).2).1 ++
    (exponent (fraction (digits s).2).2).1) = ((digits s).1 ++ (fraction (digits s).2).1 ++
      (exponent (fraction (digits s).2).2).1, [])
  generalize (digits s).2 = s₁
  generalize (fraction s₁).2 = s₂
  have letter : ∀ c ∈ (exponent s₂).1.head?, c.isDigit = false ∧ c ≠ '.' := by
    rcases exponent_cases s₂ with none | ⟨e, d, s₂, letter, starts, rfl⟩
    · rw [none]
      exact nofun
    · intro c first
      rw [exponent_of_startsPower letter starts] at first
      cases first
      rcases letter with rfl | rfl <;> decide
  have point : ∀ c ∈ ((fraction s₁).1 ++ (exponent s₂).1).head?, c.isDigit = false := by
    rcases fraction_cases s₁ with none | ⟨d, s₁, digit, rfl⟩
    · rw [none]
      exact fun c first => (letter c first).1
    · intro c first
      rw [fraction_of_digit digit] at first
      cases first
      rfl
  rw [numberTail, List.append_assoc, digits_append_of_ends s point]
  dsimp only
  rw [fraction_append_of_ends s₁ letter]
  dsimp only
  rw [exponent_alone, List.append_assoc]

end Text

end BindStream
