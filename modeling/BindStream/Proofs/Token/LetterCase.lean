import BindStream.Proofs.Token.Grammar

namespace BindStream

open Text

/-! The ASCII letters of a text written as capitals: the text is cut as before, into pieces of the
same kinds and lengths that stand for the same names. -/

namespace Text

def capitals (s : List Char) : List Char := s.map Char.toUpper

/-- Capitals in a part that has been read and in the rest behind it. -/
def capitalsOfBoth (parts : List Char × List Char) : List Char × List Char :=
  (capitals parts.1, capitals parts.2)

variable {c d q : Char} {s : List Char}

@[simp] theorem capitals_nil : capitals [] = [] := rfl

@[simp] theorem capitals_cons (c : Char) (s : List Char) :
    capitals (c :: s) = c.toUpper :: capitals s := rfl

@[simp] theorem capitals_append (s t : List Char) : capitals (s ++ t) = capitals s ++ capitals t :=
  List.map_append

theorem toUpper_of_not_ascii (other : ¬c.toNat < 0x80) : c.toUpper = c := by
  delta Char.toUpper
  simp [UInt32.le_iff_toNat_le]
  omega

/-- What does not tell ASCII letters from their capitals tells no character from its capital. -/
theorem blind_toUpper {α : Type} [DecidableEq α] (f : Char → α)
    (ascii : ∀ n < 0x80, decide (f (Char.ofNat n).toUpper = f (Char.ofNat n)) = true) (c : Char) :
    f c.toUpper = f c := by
  by_cases small : c.toNat < 0x80
  · exact of_decide_eq_true
      (forall_ascii (p := fun c => decide (f c.toUpper = f c)) ascii small)
  · rw [toUpper_of_not_ascii small]

theorem toUpper_toUpper (c : Char) : c.toUpper.toUpper = c.toUpper :=
  blind_toUpper Char.toUpper (by decide) c

theorem utf8Size_toUpper (c : Char) : c.toUpper.utf8Size = c.utf8Size :=
  blind_toUpper Char.utf8Size (by decide) c

theorem isDigit_toUpper (c : Char) : c.toUpper.isDigit = c.isDigit :=
  blind_toUpper Char.isDigit (by decide) c

theorem isBlank_toUpper (c : Char) : isBlank c.toUpper = isBlank c :=
  blind_toUpper isBlank (by decide) c

theorem startsWord_toUpper (c : Char) : startsWord c.toUpper = startsWord c :=
  blind_toUpper startsWord (by decide) c

theorem inWord_toUpper (c : Char) : inWord c.toUpper = inWord c :=
  blind_toUpper inWord (by decide) c

theorem ofMark?_toUpper (c : Char) : TokenKind.ofMark? c.toUpper = TokenKind.ofMark? c :=
  blind_toUpper TokenKind.ofMark? (by decide) c

theorem ofDelimiter?_toUpper (c : Char) :
    TokenKind.ofDelimiter? c.toUpper = TokenKind.ofDelimiter? c :=
  blind_toUpper TokenKind.ofDelimiter? (by decide) c

theorem operatorSeconds_toUpper (c : Char) : operatorSeconds c.toUpper = operatorSeconds c :=
  blind_toUpper operatorSeconds (by decide) c

theorem upperChar_toUpper (c : Char) : upperChar c.toUpper = upperChar c :=
  blind_toUpper upperChar (by decide) c

theorem startsExponent_toUpper (c : Char) :
    (c.toUpper = 'e' ∨ c.toUpper = 'E') ↔ (c = 'e' ∨ c = 'E') :=
  decide_eq_decide.mp (blind_toUpper (fun c => decide (c = 'e' ∨ c = 'E')) (by decide) c)

/-- A character that is no letter is not the capital of another one. -/
theorem toUpper_eq_iff (noLetter : d.isAlpha = false) : c.toUpper = d ↔ c = d := by
  have either : c.toUpper = c ∨ c.toUpper.isAlpha = true ∧ c.isAlpha = true := by
    by_cases small : c.toNat < 0x80
    · exact of_decide_eq_true
        (forall_ascii (p := fun c => decide (c.toUpper = c ∨ c.toUpper.isAlpha ∧ c.isAlpha))
          (by decide) small)
    · exact .inl (toUpper_of_not_ascii small)
  rcases either with same | ⟨capital, letter⟩
  · rw [same]
  · refine iff_of_false ?_ ?_
    · rintro rfl
      cases capital.symm.trans noLetter
    · rintro rfl
      cases letter.symm.trans noLetter

theorem toUpper_of_noLetter (noLetter : d.isAlpha = false) : d.toUpper = d :=
  (toUpper_eq_iff noLetter).mpr rfl

theorem byteLength_capitals (s : List Char) : byteLength (capitals s) = byteLength s := by
  induction s with
  | nil => rfl
  | cons c s ih => rw [capitals_cons, byteLength_cons, byteLength_cons, utf8Size_toUpper, ih]

/-! What each scanner reads. -/

section

variable {p : Char → Bool}

theorem takeWhile_capitals (blind : ∀ c, p c.toUpper = p c) (s : List Char) :
    (capitals s).takeWhile p = capitals (s.takeWhile p) := by
  rw [capitals, List.takeWhile_map]
  exact congrArg (fun p => capitals (s.takeWhile p)) (funext blind)

theorem dropWhile_capitals (blind : ∀ c, p c.toUpper = p c) (s : List Char) :
    (capitals s).dropWhile p = capitals (s.dropWhile p) := by
  rw [capitals, List.dropWhile_map]
  exact congrArg (fun p => capitals (s.dropWhile p)) (funext blind)

end

theorem digits_capitals (s : List Char) : digits (capitals s) = capitalsOfBoth (digits s) := by
  rw [digits, takeWhile_capitals isDigit_toUpper, dropWhile_capitals isDigit_toUpper]
  rfl

theorem fraction_capitals (s : List Char) :
    fraction (capitals s) = capitalsOfBoth (fraction s) := by
  match s with
  | [] => rfl
  | [c] => simp [fraction, capitalsOfBoth]
  | c :: d :: s =>
      have point : c.toUpper = '.' ↔ c = '.' := toUpper_eq_iff rfl
      by_cases same : c = '.'
      · have here := digits_capitals (d :: s)
        rw [capitals_cons] at here
        rw [capitals_cons, capitals_cons, point.mpr same, same, fraction, fraction,
          isDigit_toUpper, here]
        split <;> rfl
      · simp [fraction, point, same, capitalsOfBoth]

theorem exponent_capitals (s : List Char) :
    exponent (capitals s) = capitalsOfBoth (exponent s) := by
  match s with
  | [] => rfl
  | [c] => rfl
  | e :: c :: s =>
      have plus : c.toUpper = '+' ↔ c = '+' := toUpper_eq_iff rfl
      have minus : c.toUpper = '-' ↔ c = '-' := toUpper_eq_iff rfl
      have here := digits_capitals (c :: s)
      rw [capitals_cons] at here
      simp only [capitals_cons, exponent, startsExponent_toUpper, plus, minus, isDigit_toUpper,
        digits_capitals s, here]
      repeat' split
      all_goals rfl

theorem numberTail_capitals (s : List Char) :
    numberTail (capitals s) = capitalsOfBoth (numberTail s) := by
  simp [numberTail, digits_capitals, fraction_capitals, exponent_capitals, capitalsOfBoth]

theorem isAlpha_of_second (second : d ∈ operatorSeconds c) : d.isAlpha = false := by
  have listed := mem_of_mem_operatorSeconds second
  simp only [List.mem_cons, List.not_mem_nil, or_false] at listed
  obtain rfl | rfl | rfl | rfl | rfl := listed <;> rfl

theorem operatorTail_capitals (c : Char) (s : List Char) :
    operatorTail c.toUpper (capitals s) = capitalsOfBoth (operatorTail c s) := by
  cases s with
  | nil => rfl
  | cons d s =>
      have second : d.toUpper ∈ operatorSeconds c ↔ d ∈ operatorSeconds c := by
        constructor
        · intro member
          have same : d = d.toUpper := (toUpper_eq_iff (isAlpha_of_second member)).mp rfl
          rwa [← same] at member
        · intro member
          rwa [toUpper_of_noLetter (isAlpha_of_second member)]
      simp only [capitals_cons, operatorTail, operatorSeconds_toUpper, second]
      split <;> rfl

theorem lineComment_capitals (s : List Char) :
    lineComment (capitals s) = capitalsOfBoth (lineComment s) := by
  have blind : ∀ c : Char, (c.toUpper != '\n') = (c != '\n') :=
    blind_toUpper (· != '\n') (by decide)
  rw [lineComment, takeWhile_capitals blind, dropWhile_capitals blind]
  rfl

theorem blockComment_capitals (s : List Char) :
    blockComment (capitals s) = capitalsOfBoth (blockComment s) := by
  fun_induction blockComment s with
  | case1 => rfl
  | case2 c => rfl
  | case3 c d s ends =>
      obtain ⟨rfl, rfl⟩ := ends
      rfl
  | case4 c d s inside body rest read ih =>
      have star : c.toUpper = '*' ↔ c = '*' := toUpper_eq_iff rfl
      have slash : d.toUpper = '/' ↔ d = '/' := toUpper_eq_iff rfl
      rw [capitals_cons, read] at ih
      have inside' : ¬(c.toUpper = '*' ∧ d.toUpper = '/') := by rw [star, slash]; exact inside
      rw [capitals_cons, capitals_cons, blockComment, if_neg inside', ih]
      rfl

theorem closeQuote_capitals (noLetter : q.isAlpha = false) (s : List Char) :
    closeQuote q (capitals s) = (closeQuote q s).map capitalsOfBoth := by
  have delimiter (c : Char) : c.toUpper = q ↔ c = q := toUpper_eq_iff noLetter
  have same : q.toUpper = q := toUpper_of_noLetter noLetter
  fun_induction closeQuote q s with
  | case1 => rfl
  | case2 => simp [closeQuote, delimiter, capitalsOfBoth]
  | case3 c other => simp [closeQuote, delimiter, other]
  | case4 s ih =>
      simp only [capitals_cons, same, closeQuote, if_true, ih, Option.map_map]
      congr 1
      funext parts
      simp [capitalsOfBoth, same]
  | case5 d s other =>
      simp [closeQuote, same, delimiter, other, capitalsOfBoth]
  | case6 c d s other ih =>
      rw [capitals_cons] at ih
      simp only [capitals_cons, closeQuote, delimiter, other, if_false, ih, Option.map_map]
      congr 1

theorem undouble_capitals (noLetter : q.isAlpha = false) (s : List Char) :
    undouble q (capitals s) = capitals (undouble q s) := by
  have delimiter (c : Char) : c.toUpper = q ↔ c = q := toUpper_eq_iff noLetter
  fun_induction undouble q s with
  | case1 => rfl
  | case2 c => rfl
  | case3 c d s both ih =>
      simp [undouble, both, toUpper_of_noLetter noLetter, ih]
  | case4 c d s other ih =>
      rw [capitals_cons] at ih
      simp [undouble, delimiter, other, ih]

theorem interior_capitals (s : List Char) : interior (capitals s) = capitals (interior s) := by
  rw [interior, capitals, ← List.map_tail, ← List.map_dropLast]
  rfl

theorem upper_capitals (s : List Char) : upper (capitals s) = upper s := by
  induction s with
  | nil => rfl
  | cons c s ih => rw [capitals_cons, upper_cons, upper_cons, upperChar_toUpper, ih]

end Text

/-! The pieces of a text and its tokens. -/

variable {c : Char} {s : List Char}

theorem head?_capitals_eq_iff {d : Char} (noLetter : d.isAlpha = false) (s : List Char) :
    (capitals s).head? = some d ↔ s.head? = some d := by
  cases s with
  | nil => rfl
  | cons c s => simp [toUpper_eq_iff noLetter]

theorem gapHead_capitals (c : Char) (s : List Char) :
    gapHead c.toUpper (capitals s) = (gapHead c s).map capitalsOfBoth := by
  have tail : (capitals s).tail = capitals s.tail := List.map_tail.symm
  have dash : c.toUpper = '-' ↔ c = '-' := toUpper_eq_iff rfl
  have slash : c.toUpper = '/' ↔ c = '/' := toUpper_eq_iff rfl
  simp only [gapHead_eq, dash, slash, head?_capitals_eq_iff (d := '-') rfl,
    head?_capitals_eq_iff (d := '*') rfl, isBlank_toUpper, tail, lineComment_capitals,
    blockComment_capitals, takeWhile_capitals isBlank_toUpper, dropWhile_capitals isBlank_toUpper]
  repeat' split
  all_goals rfl

theorem TokenKind.ofWord_capitals (word : List Char) : ofWord (capitals word) = ofWord word := by
  have letters : (capitals word).map Char.toUpper = word.map Char.toUpper := by
    rw [capitals, List.map_map]
    exact List.map_congr_left fun c _ => toUpper_toUpper c
  rw [ofWord, ofWord, Keyword.ofWord?, Keyword.ofWord?, letters]

theorem isAlpha_of_delimiter {kind : TokenKind} (delimits : TokenKind.ofDelimiter? c = some kind) :
    c.isAlpha = false := by
  unfold TokenKind.ofDelimiter? at delimits
  split at delimits
  case h_4 => cases delimits
  all_goals rfl

theorem tokenHead_capitals (c : Char) (s : List Char) :
    tokenHead c.toUpper (capitals s) =
      (tokenHead c s).map fun (kind, parts) => (kind, capitalsOfBoth parts) := by
  rw [tokenHead, tokenHead, ofMark?_toUpper, ofDelimiter?_toUpper, isDigit_toUpper,
    startsWord_toUpper]
  split
  · rfl
  · split
    · next delimits =>
      have noLetter := isAlpha_of_delimiter delimits
      rw [toUpper_of_noLetter noLetter, closeQuote_capitals noLetter, Option.map_map,
        Option.map_map]
      congr 1
      funext parts
      simp [capitalsOfBoth, toUpper_of_noLetter noLetter]
    · rw [numberTail_capitals, takeWhile_capitals inWord_toUpper,
        dropWhile_capitals inWord_toUpper, operatorTail_capitals, ← capitals_cons,
        TokenKind.ofWord_capitals]
      repeat' split
      all_goals rfl

namespace Piece

def capitals : Piece → Piece
  | gap text => gap (Text.capitals text)
  | token kind text => token kind (Text.capitals text)

theorem head_capitals (c : Char) (s : List Char) :
    head c.toUpper (Text.capitals s) =
      (head c s).map fun (piece, rest) => (piece.capitals, Text.capitals rest) := by
  rw [head, head, gapHead_capitals, tokenHead_capitals]
  cases gapHead c s with
  | some parts => rfl
  | none => cases tokenHead c s <;> rfl

theorem split_capitals (s : List Char) :
    split (Text.capitals s) = ((split s).1.map capitals, Text.capitals (split s).2) := by
  fun_induction split s with
  | case1 =>
      rw [capitals_nil, split_nil]
      rfl
  | case2 c s headless =>
      have headlessToo : head c.toUpper (Text.capitals s) = none := by
        rw [head_capitals, headless]
        rfl
      rw [capitals_cons, split_of_head_none headlessToo]
      rfl
  | case3 c s piece rest headed shorter pieces unread read ih =>
      rw [read] at ih
      have headedToo :
          head c.toUpper (Text.capitals s) = some (piece.capitals, Text.capitals rest) := by
        rw [head_capitals, headed]
        rfl
      rw [capitals_cons, split_of_head headedToo, ih]
      rfl

end Piece

namespace Token

def capitals (token : Token) : Token :=
  { token with text := String.ofList (Text.capitals token.text.toList) }

theorem columnName_capitals (token : Token) : token.capitals.columnName = token.columnName := by
  unfold columnName capitals
  dsimp only
  rw [String.toList_ofList, upper_capitals, interior_capitals, undouble_capitals rfl,
    upper_capitals]

end Token

theorem Piece.tokens_capitals (start : Nat) (pieces : List Piece) :
    tokens start (pieces.map capitals) = (tokens start pieces).map Token.capitals := by
  induction pieces generalizing start with
  | nil => rfl
  | cons piece pieces ih =>
      cases piece with
      | gap text =>
          rw [List.map_cons, capitals, tokens, tokens, byteLength_capitals, ih]
      | token kind text =>
          rw [List.map_cons, capitals, tokens, tokens, byteLength_capitals, ih, List.map_cons,
            Token.capitals, String.toList_ofList]

theorem Scan.ofChars_capitals (s : List Char) :
    ofChars (capitals s) =
      { tokens := (ofChars s).tokens.map Token.capitals, failure := (ofChars s).failure } := by
  have empty (s : List Char) : (capitals s).isEmpty = s.isEmpty := by cases s <;> rfl
  simp only [ofChars, Piece.split_capitals, Piece.tokens_capitals, byteLength_capitals, empty]

end BindStream
