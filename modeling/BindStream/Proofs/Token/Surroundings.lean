import BindStream.Proofs.Token.Number

namespace BindStream

open Text

/-! A scan by single characters for the question marks in code: outside quotations and comments. It
passes each gap and each token as a whole, and is in code again behind it. -/

/-- What a scan by characters takes its place to be in. -/
inductive Surroundings
  | code
  | quotation (delimiter : Char)
  | lineComment
  | blockComment
  deriving DecidableEq, Repr

/-- The offsets of the question marks in code; no line comment opens where `shielded` holds. -/
def Surroundings.questionMarks (shielded : Nat → Bool) :
    Surroundings → Nat → List Char → List Nat
  | _, _, [] => []
  | code, offset, '-' :: '-' :: s =>
    if shielded offset then questionMarks shielded code (offset + 1) ('-' :: s)
    else questionMarks shielded lineComment (offset + 2) s
  | code, offset, '/' :: '*' :: s => questionMarks shielded blockComment (offset + 2) s
  | code, offset, c :: s =>
    let next := offset + c.utf8Size
    if c = '?' then offset :: questionMarks shielded code next s
    else if c ∈ ['\'', '"', '`'] then questionMarks shielded (quotation c) next s
    else questionMarks shielded code next s
  | quotation _, _, [_] => []
  | quotation q, offset, c :: d :: s =>
    let next := offset + c.utf8Size
    if c = q then
      if d = q then questionMarks shielded (quotation q) (next + d.utf8Size) s
      else questionMarks shielded code next (d :: s)
    else questionMarks shielded (quotation q) next (d :: s)
  | lineComment, offset, c :: s =>
    questionMarks shielded (if c = '\n' then code else lineComment) (offset + c.utf8Size) s
  | blockComment, offset, '*' :: '/' :: s => questionMarks shielded code (offset + 2) s
  | blockComment, offset, c :: s =>
    questionMarks shielded blockComment (offset + c.utf8Size) s

namespace Surroundings

variable {shielded : Nat → Bool} {offset : Nat} {c q : Char} {s body gap text rest : List Char}
variable {kind : TokenKind}

theorem code_pass (noMark : c ≠ '?') (noQuote : c ∉ ['\'', '"', '`'])
    (noLine : c = '-' → s.head? = some '-' → shielded offset = true)
    (noBlock : c = '/' → s.head? ≠ some '*') :
    questionMarks shielded code offset (c :: s) =
      questionMarks shielded code (offset + c.utf8Size) s := by
  rw [questionMarks.eq_def]
  split
  case h_1 empty => cases empty
  case h_2 s same =>
      cases same
      rw [if_pos (noLine rfl rfl)]
      rfl
  case h_3 s same =>
      cases same
      exact absurd rfl (noBlock rfl)
  case h_4 same =>
      cases same
      rw [if_neg noMark, if_neg noQuote]
  all_goals contradiction

/-- A character that the scan passes over in code, whatever stands behind it. -/
def Inert (c : Char) : Prop := c ∉ ['?', '\'', '"', '`', '-', '/']

instance (c : Char) : Decidable (Inert c) := inferInstanceAs (Decidable (_ ∉ _))

theorem code_inert (inert : Inert c) :
    questionMarks shielded code offset (c :: s) =
      questionMarks shielded code (offset + c.utf8Size) s := by
  have other (d : Char) (listed : d ∈ ['?', '\'', '"', '`', '-', '/']) : c ≠ d := by
    rintro rfl
    exact inert listed
  apply code_pass
  · exact other '?' (by decide)
  · intro listed
    refine inert (List.mem_cons_of_mem _ ?_)
    exact List.mem_append_left ['-', '/'] listed
  · exact fun same => absurd same (other '-' (by decide))
  · exact fun same => absurd same (other '/' (by decide))

theorem code_inert_append (inert : ∀ c ∈ text, Inert c) :
    questionMarks shielded code offset (text ++ s) =
      questionMarks shielded code (offset + byteLength text) s := by
  induction text generalizing offset with
  | nil => rfl
  | cons c text ih =>
      rw [List.forall_mem_cons] at inert
      rw [List.cons_append, code_inert inert.1, ih inert.2, byteLength_cons, Nat.add_assoc]

theorem code_number_append (digits : ∀ c ∈ text, inNumber c = true)
    (within : ∀ x, offset ≤ x → x < offset + byteLength text → shielded x = true) :
    questionMarks shielded code offset (text ++ s) =
      questionMarks shielded code (offset + byteLength text) s := by
  induction text generalizing offset with
  | nil => rfl
  | cons c text ih =>
      rw [List.forall_mem_cons] at digits
      have positive := c.utf8Size_pos
      rw [byteLength_cons, ← Nat.add_assoc] at within ⊢
      have passed : questionMarks shielded code offset (c :: (text ++ s)) =
          questionMarks shielded code (offset + c.utf8Size) (text ++ s) := by
        apply code_pass
        · rintro rfl
          cases digits.1
        · simp only [List.mem_cons, List.not_mem_nil, or_false]
          rintro (rfl | rfl | rfl) <;> cases digits.1
        · exact fun _ _ => within offset (Nat.le_refl _) (by omega)
        · rintro rfl
          cases digits.1
      rw [List.cons_append, passed, ih digits.2]
      exact fun x low high => within x (by omega) high

theorem inert_of_inWord (within : inWord c = true) : Inert c := by
  simp only [Inert, List.mem_cons, List.not_mem_nil, or_false]
  rintro (rfl | rfl | rfl | rfl | rfl | rfl) <;> cases within

theorem inert_of_isBlank (blank : isBlank c = true) : Inert c := by
  simp only [Inert, List.mem_cons, List.not_mem_nil, or_false]
  rintro (rfl | rfl | rfl | rfl | rfl | rfl) <;> cases blank

/-! Comments. -/

theorem code_dashes (exposed : shielded offset = false) (s : List Char) :
    questionMarks shielded code offset ('-' :: '-' :: s) =
      questionMarks shielded lineComment (offset + 2) s :=
  if_neg (Bool.eq_false_iff.mp exposed)

theorem code_slash_star (s : List Char) :
    questionMarks shielded code offset ('/' :: '*' :: s) =
      questionMarks shielded blockComment (offset + 2) s := rfl

theorem lineComment_cons (c : Char) (s : List Char) :
    questionMarks shielded lineComment offset (c :: s) =
      questionMarks shielded (if c = '\n' then code else lineComment) (offset + c.utf8Size) s := by
  rw [questionMarks]

theorem lineComment_append (within : '\n' ∉ body) (ends : ∀ c ∈ rest.head?, c = '\n') :
    questionMarks shielded lineComment offset (body ++ rest) =
      questionMarks shielded code (offset + byteLength body) rest := by
  induction body generalizing offset with
  | nil =>
      cases rest with
      | nil => rfl
      | cons c rest =>
          obtain rfl := ends c rfl
          have inert : Inert '\n' := by decide
          rw [List.nil_append, lineComment_cons, if_pos rfl, byteLength_nil, Nat.add_zero,
            code_inert inert]
  | cons c body ih =>
      rw [List.mem_cons, not_or] at within
      rw [List.cons_append, lineComment_cons, if_neg (Ne.symm within.1), ih within.2,
        byteLength_cons, Nat.add_assoc]

theorem blockComment_pass (inside : ¬(c = '*' ∧ s.head? = some '/')) :
    questionMarks shielded blockComment offset (c :: s) =
      questionMarks shielded blockComment (offset + c.utf8Size) s := by
  rw [questionMarks]
  rintro t rfl rfl
  exact inside ⟨rfl, rfl⟩

theorem blockComment_end (s : List Char) :
    questionMarks shielded blockComment offset ('*' :: '/' :: s) =
      questionMarks shielded code (offset + 2) s := rfl

theorem blockComment_append (first : ¬['*', '/'] <:+: body ++ ['*']) :
    questionMarks shielded blockComment offset (body ++ '*' :: '/' :: rest) =
      questionMarks shielded code (offset + byteLength body + 2) rest := by
  induction body generalizing offset with
  | nil => exact blockComment_end rest
  | cons c body ih =>
      rw [List.cons_append, ending_infix_cons, not_or] at first
      have inside : ¬(c = '*' ∧ (body ++ '*' :: '/' :: rest).head? = some '/') := by
        rw [head?_append_ending]
        exact first.1
      rw [List.cons_append, blockComment_pass inside, ih first.2, byteLength_cons,
        Nat.add_assoc offset]

theorem blockComment_never (never : ¬['*', '/'] <:+: body) :
    questionMarks shielded blockComment offset body = [] := by
  induction body generalizing offset with
  | nil => rfl
  | cons c body ih =>
      rw [ending_infix_cons, not_or] at never
      rw [blockComment_pass never.1, ih never.2]

theorem code_gap (fits : IsGap gap s) (exposed : shielded offset = false) :
    questionMarks shielded code offset (gap ++ s) =
      questionMarks shielded code (offset + byteLength gap) s := by
  cases fits with
  | blanks filled blank ends =>
      exact code_inert_append fun c member => inert_of_isBlank (blank c member)
  | @line body _ within ends =>
      rw [List.cons_append, List.cons_append, code_dashes exposed,
        lineComment_append within ends, byteLength_cons, byteLength_cons, ← Nat.add_assoc,
        ← Nat.add_assoc]
      rfl
  | @block body _ first =>
      have length : byteLength ('/' :: '*' :: (body ++ ['*', '/'])) = 2 + byteLength body + 2 := by
        rw [byteLength_cons, byteLength_cons, byteLength_append, ← Nat.add_assoc, ← Nat.add_assoc]
        rfl
      rw [List.cons_append, List.cons_append, List.append_assoc, code_slash_star, length,
        ← Nat.add_assoc, ← Nat.add_assoc]
      exact blockComment_append first
  | unclosed never =>
      rw [List.append_nil, code_slash_star, blockComment_never never]
      rfl

/-! Quotations. -/

theorem quotation_singleton (q c : Char) :
    questionMarks shielded (quotation q) offset [c] = [] := by
  rw [questionMarks]

theorem quotation_cons_cons (q c d : Char) (s : List Char) :
    questionMarks shielded (quotation q) offset (c :: d :: s) =
      if c = q then
        if d = q then
          questionMarks shielded (quotation q) (offset + c.utf8Size + d.utf8Size) s
        else questionMarks shielded code (offset + c.utf8Size) (d :: s)
      else questionMarks shielded (quotation q) (offset + c.utf8Size) (d :: s) := by
  conv =>
    lhs
    rw [questionMarks]

theorem quotation_pair (q : Char) (s : List Char) :
    questionMarks shielded (quotation q) offset (q :: q :: s) =
      questionMarks shielded (quotation q) (offset + q.utf8Size + q.utf8Size) s := by
  rw [quotation_cons_cons, if_pos rfl, if_pos rfl]

theorem quotation_other (other : c ≠ q) (s : List Char) :
    questionMarks shielded (quotation q) offset (c :: s) =
      questionMarks shielded (quotation q) (offset + c.utf8Size) s := by
  cases s with
  | nil => exact quotation_singleton q c
  | cons d s => rw [quotation_cons_cons, if_neg other]

theorem quotation_end (ends : s.head? ≠ some q) :
    questionMarks shielded (quotation q) offset (q :: s) =
      questionMarks shielded code (offset + q.utf8Size) s := by
  cases s with
  | nil => exact quotation_singleton q q
  | cons d s =>
      have other : d ≠ q := fun same => ends (congrArg some same)
      rw [quotation_cons_cons, if_pos rfl, if_neg other]

theorem quotation_append (ends : rest.head? ≠ some q) (s : List Char) :
    questionMarks shielded (quotation q) offset (double q s ++ q :: rest) =
      questionMarks shielded code (offset + byteLength (double q s ++ [q])) rest := by
  induction s generalizing offset with
  | nil => exact quotation_end ends
  | cons c s ih =>
      by_cases same : c = q
      · subst same
        rw [double_cons_self, List.cons_append, List.cons_append, quotation_pair, ih]
        simp only [List.cons_append, byteLength_cons, Nat.add_assoc]
      · rw [double_cons_of_ne same, List.cons_append, quotation_other same, ih]
        simp only [List.cons_append, byteLength_cons, Nat.add_assoc]

theorem quotation_unclosed (unclosed : closeQuote q s = none) :
    questionMarks shielded (quotation q) offset s = [] := by
  fun_induction closeQuote q s generalizing offset with
  | case1 => rfl
  | case2 => cases unclosed
  | case3 c other => exact quotation_singleton q c
  | case4 s ih => rw [quotation_pair, ih (Option.map_eq_none_iff.mp unclosed)]
  | case5 => cases unclosed
  | case6 c d s other ih =>
      rw [quotation_other other, ih (Option.map_eq_none_iff.mp unclosed)]

/-! Tokens. -/

theorem code_mark (s : List Char) :
    questionMarks shielded code offset ('?' :: s) =
      offset :: questionMarks shielded code (offset + 1) s := rfl

theorem code_quote (quote : c ∈ ['\'', '"', '`']) (s : List Char) :
    questionMarks shielded code offset (c :: s) =
      questionMarks shielded (quotation c) (offset + c.utf8Size) s := by
  simp only [List.mem_cons, List.not_mem_nil, or_false] at quote
  obtain rfl | rfl | rfl := quote <;> rfl

theorem quote_of_delimiter (delimits : TokenKind.ofDelimiter? c = some kind) :
    c ∈ ['\'', '"', '`'] := by
  unfold TokenKind.ofDelimiter? at delimits
  split at delimits
  case h_4 => cases delimits
  all_goals decide

theorem not_quote_of_delimiter (noDelimiter : TokenKind.ofDelimiter? c = none) :
    c ∉ ['\'', '"', '`'] := by
  simp only [List.mem_cons, List.not_mem_nil, or_false]
  rintro (rfl | rfl | rfl) <;> cases noDelimiter

theorem inert_of_mark (marks : TokenKind.ofMark? c = some kind) (other : c ≠ '?') : Inert c := by
  unfold TokenKind.ofMark? at marks
  split at marks
  case h_1 => exact absurd rfl other
  case h_6 => cases marks
  all_goals decide

theorem code_operator (noMark : TokenKind.ofMark? c = none)
    (noDelimiter : TokenKind.ofDelimiter? c = none) (noGap : gapHead c s = none) :
    questionMarks shielded code offset (c :: s) =
      questionMarks shielded code (offset + c.utf8Size) s := by
  obtain ⟨-, noLine, noBlock⟩ := gapHead_eq_none_iff.mp noGap
  refine code_pass ?_ (not_quote_of_delimiter noDelimiter) ?_ ?_
  · rintro rfl
    cases noMark
  · exact fun dash dashes => absurd ⟨dash, dashes⟩ noLine
  · exact fun slash star => noBlock ⟨slash, star⟩

theorem inert_of_mem_operatorSeconds {d : Char} (second : d ∈ operatorSeconds c) : Inert d := by
  have listed := mem_of_mem_operatorSeconds second
  simp only [List.mem_cons, List.not_mem_nil, or_false] at listed
  obtain rfl | rfl | rfl | rfl | rfl := listed <;> decide

theorem mem_operatorSeconds_of_mem_operatorTail {d : Char}
    (member : d ∈ (operatorTail c s).1) : d ∈ operatorSeconds c := by
  cases s with
  | nil => cases member
  | cons e s =>
      rw [operatorTail] at member
      split at member
      · next second =>
          obtain rfl := List.mem_singleton.mp member
          exact second
      · cases member

/-- The scan comes out of each token in code, and finds in it the token's own question mark. -/
theorem code_token (fits : IsToken kind text s)
    (within : kind = .number →
      ∀ x, offset ≤ x → x < offset + byteLength text → shielded x = true) :
    questionMarks shielded code offset (text ++ s) =
      (if kind = .marker then [offset] else []) ++
        questionMarks shielded code (offset + byteLength text) s := by
  cases fits with
  | @mark c _ _ marks =>
      rw [List.singleton_append, byteLength_cons, byteLength_nil, Nat.add_zero]
      by_cases same : c = '?'
      · subst same
        cases marks
        exact code_mark s
      · have other : kind ≠ .marker := by
          rintro rfl
          exact same (eq_of_ofMark?_marker marks)
        rw [if_neg other, List.nil_append]
        exact code_inert (inert_of_mark marks same)
  | @quotation q _ inner _ delimits ends =>
      have quote := quote_of_delimiter delimits
      rw [if_neg (ne_marker_of_ofDelimiter? delimits), List.nil_append, quoted, List.cons_append,
        List.append_assoc, List.singleton_append, code_quote quote, quotation_append ends,
        byteLength_cons, Nat.add_assoc]
  | @number c tail _ digit longest =>
      have inside : ∀ d ∈ c :: tail, inNumber d = true := by
        rw [List.forall_mem_cons]
        refine ⟨inNumber_of_isDigit digit, ?_⟩
        have read := inNumber_of_mem_numberTail (tail ++ s)
        rwa [longest] at read
      exact code_number_append inside (within rfl)
  | @word c tail _ starts inside ends =>
      have all : ∀ d ∈ c :: tail, Inert d := by
        rw [List.forall_mem_cons]
        exact ⟨inert_of_inWord (inWord_of_startsWord starts),
          fun d member => inert_of_inWord (inside d member)⟩
      rw [if_neg (ofWord_ne_marker _), List.nil_append]
      exact code_inert_append all
  | @operator c tail _ noMark noDelimiter noDigit noWord noGap longest =>
      have tailInert : ∀ d ∈ tail, Inert d := by
        intro d member
        have read : d ∈ (operatorTail c (tail ++ s)).1 := by rwa [longest]
        exact inert_of_mem_operatorSeconds (mem_operatorSeconds_of_mem_operatorTail read)
      rw [List.cons_append, code_operator noMark noDelimiter noGap, code_inert_append tailInert,
        byteLength_cons, Nat.add_assoc]
      rfl

end Surroundings

end BindStream
