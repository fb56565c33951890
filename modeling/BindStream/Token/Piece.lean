import BindStream.Text.Alphabetic
import BindStream.Text.Blank
import BindStream.Text.Numeric
import BindStream.Token

namespace BindStream

/-! A statement cut into pieces, each a token or a gap. The pieces and what follows them make up
the text. -/

inductive Piece
  | gap (text : List Char)
  | token (kind : TokenKind) (text : List Char)
  deriving DecidableEq, Repr

def Piece.text : Piece → List Char
  | gap text => text
  | token _ text => text

namespace Text

def startsWord (c : Char) : Bool := isAlphabetic c || c == '_'

def inWord (c : Char) : Bool := isAlphabetic c || isNumeric c || c == '_' || c == '$'

def digits (s : List Char) : List Char × List Char :=
  (s.takeWhile Char.isDigit, s.dropWhile Char.isDigit)

/-- A point belongs to a number if a digit follows it. -/
def fraction : List Char → List Char × List Char
  | '.' :: d :: s =>
    if d.isDigit then ('.' :: (digits (d :: s)).1, (digits (d :: s)).2) else ([], '.' :: d :: s)
  | s => ([], s)

/-- An exponent begins with `e` and a digit or a sign; a sign needs no digit after it. -/
def exponent : List Char → List Char × List Char
  | e :: x :: s =>
    if e = 'e' ∨ e = 'E' then
      if x = '+' ∨ x = '-' then (e :: x :: (digits s).1, (digits s).2)
      else if x.isDigit then (e :: (digits (x :: s)).1, (digits (x :: s)).2)
      else ([], e :: x :: s)
    else ([], e :: x :: s)
  | s => ([], s)

def numberTail (s : List Char) : List Char × List Char :=
  let (whole, s₁) := digits s
  let (point, s₂) := fraction s₁
  let (power, s₃) := exponent s₂
  (whole ++ point ++ power, s₃)

/-- The characters that make an operator of two with the one before. -/
def operatorSeconds : Char → List Char
  | '<' => ['=', '>', '<']
  | '>' => ['=', '>']
  | '!' => ['=']
  | '|' => ['|']
  | ':' => [':']
  | _ => []

def operatorTail (c : Char) : List Char → List Char × List Char
  | [] => ([], [])
  | d :: s => if d ∈ operatorSeconds c then ([d], s) else ([], d :: s)

def lineComment (s : List Char) : List Char × List Char :=
  (s.takeWhile (· != '\n'), s.dropWhile (· != '\n'))

/-- The body of a comment up to the first `*/`, or all of an unclosed one. -/
def blockComment : List Char → List Char × List Char
  | [] => ([], [])
  | [c] => ([c], [])
  | c :: d :: s =>
    if c = '*' ∧ d = '/' then (['*', '/'], s)
    else
      let (body, rest) := blockComment (d :: s)
      (c :: body, rest)

end Text

open Text

def TokenKind.ofMark? : Char → Option TokenKind
  | '?' => some .marker
  | '(' => some .leftParen
  | ')' => some .rightParen
  | ',' => some .comma
  | ';' => some .semicolon
  | _ => none

def TokenKind.ofDelimiter? : Char → Option TokenKind
  | '\'' => some .quoted
  | '"' => some .quoted
  | '`' => some .quotedIdentifier
  | _ => none

def TokenKind.ofWord (word : List Char) : TokenKind :=
  match Keyword.ofWord? word with
  | some k => .keyword k
  | none => .identifier

/-- The gap at the head of a text: blanks or one comment. -/
def gapHead : Char → List Char → Option (List Char × List Char)
  | '-', '-' :: s => some ('-' :: '-' :: (lineComment s).1, (lineComment s).2)
  | '/', '*' :: s => some ('/' :: '*' :: (blockComment s).1, (blockComment s).2)
  | c, s => if isBlank c then some (c :: s.takeWhile isBlank, s.dropWhile isBlank) else none

/-- The token at the head of a text that begins with no gap; `none` for a quoted text without
its end. -/
def tokenHead (c : Char) (s : List Char) : Option (TokenKind × List Char × List Char) :=
  match TokenKind.ofMark? c with
  | some kind => some (kind, [c], s)
  | none =>
    match TokenKind.ofDelimiter? c with
    | some kind => (closeQuote c s).map fun (body, rest) => (kind, c :: body, rest)
    | none =>
      if c.isDigit then some (.number, c :: (numberTail s).1, (numberTail s).2)
      else if startsWord c then
        some (.ofWord (c :: s.takeWhile inWord), c :: s.takeWhile inWord, s.dropWhile inWord)
      else some (.operator, c :: (operatorTail c s).1, (operatorTail c s).2)

def Piece.head (c : Char) (s : List Char) : Option (Piece × List Char) :=
  match gapHead c s with
  | some (text, rest) => some (.gap text, rest)
  | none => (tokenHead c s).map fun (kind, text, rest) => (.token kind text, rest)

namespace Text

@[simp] theorem digits_append (s : List Char) : (digits s).1 ++ (digits s).2 = s :=
  List.takeWhile_append_dropWhile

theorem fraction_append (s : List Char) : (fraction s).1 ++ (fraction s).2 = s := by
  unfold fraction
  split
  · split
    · simp
    · rfl
  · rfl

theorem exponent_append (s : List Char) : (exponent s).1 ++ (exponent s).2 = s := by
  unfold exponent
  split
  · repeat' split
    all_goals simp
  · rfl

theorem numberTail_append (s : List Char) : (numberTail s).1 ++ (numberTail s).2 = s := by
  simp [numberTail, exponent_append, fraction_append]

theorem operatorTail_append (c : Char) (s : List Char) :
    (operatorTail c s).1 ++ (operatorTail c s).2 = s := by
  unfold operatorTail
  split
  · rfl
  · split <;> rfl

theorem lineComment_append (s : List Char) : (lineComment s).1 ++ (lineComment s).2 = s :=
  List.takeWhile_append_dropWhile

theorem blockComment_append (s : List Char) : (blockComment s).1 ++ (blockComment s).2 = s := by
  fun_induction blockComment s <;> simp_all

end Text

theorem gapHead_append {c : Char} {s text rest : List Char}
    (h : gapHead c s = some (text, rest)) : text ++ rest = c :: s ∧ text ≠ [] := by
  unfold gapHead at h
  split at h
  · cases h
    simp [lineComment_append]
  · cases h
    simp [blockComment_append]
  · split at h
    · cases h
      simp
    · cases h

theorem tokenHead_append {c : Char} {s text rest : List Char} {kind : TokenKind}
    (h : tokenHead c s = some (kind, text, rest)) : text ++ rest = c :: s ∧ text ≠ [] := by
  unfold tokenHead at h
  repeat' split at h
  all_goals try cases h; simp [numberTail_append, operatorTail_append]
  simp only [Option.map_eq_some_iff, Prod.exists, Prod.mk.injEq] at h
  obtain ⟨body, r, hb, _, rfl, rfl⟩ := h
  simp [closeQuote_append hb]

/-- Cutting off a piece loses nothing, and no piece is empty. -/
theorem Piece.head_append {c : Char} {s rest : List Char} {piece : Piece}
    (h : Piece.head c s = some (piece, rest)) :
    piece.text ++ rest = c :: s ∧ piece.text ≠ [] := by
  unfold Piece.head at h
  split at h
  · next hg =>
    cases h
    exact gapHead_append hg
  · simp only [Option.map_eq_some_iff, Prod.exists, Prod.mk.injEq] at h
    obtain ⟨kind, text, r, ht, rfl, rfl⟩ := h
    exact tokenHead_append ht

theorem Piece.head_rest_length {c : Char} {s rest : List Char} {piece : Piece}
    (h : Piece.head c s = some (piece, rest)) : rest.length < (c :: s).length := by
  obtain ⟨whole, filled⟩ := Piece.head_append h
  rw [← whole, List.length_append]
  have := List.length_pos_iff.2 filled
  omega

/-- The pieces of a text up to a quoted text without its end, and the text from there on. -/
def Piece.split : List Char → List Piece × List Char
  | [] => ([], [])
  | c :: s =>
    match h : Piece.head c s with
    | none => ([], c :: s)
    | some (piece, rest) =>
      have := Piece.head_rest_length h
      let (pieces, unread) := Piece.split rest
      (piece :: pieces, unread)
termination_by s => s.length
decreasing_by exact this

@[simp] theorem Piece.split_nil : Piece.split [] = ([], []) := by
  rw [Piece.split]

theorem Piece.split_of_head_none {c : Char} {s : List Char} (h : Piece.head c s = none) :
    Piece.split (c :: s) = ([], c :: s) := by
  rw [Piece.split]
  split
  · rfl
  · simp_all

theorem Piece.split_of_head {c : Char} {s rest : List Char} {piece : Piece}
    (h : Piece.head c s = some (piece, rest)) :
    Piece.split (c :: s) = (piece :: (Piece.split rest).1, (Piece.split rest).2) := by
  rw [Piece.split]
  split
  · simp_all
  · next h' =>
    rw [h] at h'
    cases h'
    rfl

/-- The pieces and the unread rest are the text. -/
theorem Piece.split_append (s : List Char) :
    (Piece.split s).1.flatMap Piece.text ++ (Piece.split s).2 = s := by
  fun_induction Piece.split s with
  | case1 => rfl
  | case2 => rfl
  | case3 c s piece rest h shorter pieces unread heq ih =>
    rw [heq] at ih
    simp only [List.flatMap_cons, List.append_assoc]
    rw [ih]
    exact (Piece.head_append h).1

end BindStream
