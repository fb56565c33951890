import BindStream.Proofs.Resolver.Spans
import BindStream.Proofs.Token.Separator

namespace BindStream

open Text

/-! Texts written token by token, with spaces between. -/

/-- A text that is one token. -/
structure Lexeme where
  kind : TokenKind
  text : List Char
  scans : Piece.split text = ([.token kind text], [])

theorem Piece.split_of_tokenHead {c : Char} {s : List Char} {kind : TokenKind}
    (noGap : gapHead c s = none) (headed : tokenHead c s = some (kind, c :: s, [])) :
    Piece.split (c :: s) = ([.token kind (c :: s)], []) := by
  have head : Piece.head c s = some (.token kind (c :: s), []) := by
    rw [Piece.head, noGap, headed]
    rfl
  rw [Piece.split_of_head head, Piece.split_nil]

namespace Lexeme

def marker : Lexeme := ⟨.marker, ['?'], Piece.split_of_tokenHead rfl rfl⟩

def opening : Lexeme := ⟨.leftParen, ['('], Piece.split_of_tokenHead rfl rfl⟩

def closing : Lexeme := ⟨.rightParen, [')'], Piece.split_of_tokenHead rfl rfl⟩

def comma : Lexeme := ⟨.comma, [','], Piece.split_of_tokenHead rfl rfl⟩

def isMarker (lexeme : Lexeme) : Bool := lexeme.kind == .marker

def word (lexeme : Lexeme) : TokenKind × String := (lexeme.kind, String.ofList lexeme.text)

def token (lexeme : Lexeme) : Token := ⟨lexeme.kind, String.ofList lexeme.text, default⟩

/-- Some lexemes with one space or more between them; `gaps` says how many more, by the number of
lexemes that follow. -/
def spaced (gaps : Nat → Nat) : List Lexeme → List Char
  | [] => []
  | [last] => last.text
  | lexeme :: next :: rest =>
    lexeme.text ++ ' ' :: (List.replicate (gaps rest.length) ' ' ++ spaced gaps (next :: rest))

theorem exists_head (lexeme : Lexeme) :
    ∃ c s, lexeme.text = c :: s ∧
      Piece.head c s = some (.token lexeme.kind lexeme.text, []) := by
  obtain ⟨kind, text, scans⟩ := lexeme
  cases text with
  | nil =>
      rw [Piece.split_nil] at scans
      cases scans
  | cons c s =>
      refine ⟨c, s, rfl, ?_⟩
      cases headed : Piece.head c s with
      | none =>
          rw [Piece.split_of_head_none headed] at scans
          cases scans
      | some cut =>
          obtain ⟨piece, rest⟩ := cut
          have whole := (Piece.head_append headed).1
          rw [Piece.split_of_head headed] at scans
          have same : piece = .token kind (c :: s) :=
            (List.cons.inj (congrArg Prod.fst scans)).1
          rw [same] at whole ⊢
          rw [List.append_right_eq_self.mp whole]

theorem dropWhile_isBlank (lexeme : Lexeme) (n : Nat) (after : List Char) :
    (List.replicate n ' ' ++ (lexeme.text ++ after)).dropWhile isBlank =
      lexeme.text ++ after := by
  induction n with
  | zero =>
      obtain ⟨c, s, text, headed⟩ := lexeme.exists_head
      have solid : isBlank c = false := isBlank_of_gapHead_none (gapHead_of_head headed)
      rw [text, List.replicate_zero, List.nil_append, List.cons_append, List.dropWhile_cons,
        solid]
      rfl
  | succ n ih =>
      rw [List.replicate_succ, List.cons_append, List.dropWhile_cons]
      exact ih

theorem split_append_separator (lexeme : Lexeme) {gap : List Char}
    (separates : Separates gap) :
    Piece.split (lexeme.text ++ gap) =
      (.token lexeme.kind lexeme.text :: (Piece.split gap).1, (Piece.split gap).2) := by
  obtain ⟨c, s, text, headed⟩ := lexeme.exists_head
  have headed' := Piece.head_append_separator separates headed
  rw [text, List.cons_append, Piece.split_of_head headed', text]
  rfl

theorem split_gap_append (lexeme : Lexeme) (n : Nat) (after : List Char) :
    ∃ blanks, Piece.split (' ' :: (List.replicate n ' ' ++ (lexeme.text ++ after))) =
      (.gap blanks :: (Piece.split (lexeme.text ++ after)).1,
        (Piece.split (lexeme.text ++ after)).2) := by
  have headed : ∃ blanks, Piece.head ' ' (List.replicate n ' ' ++ (lexeme.text ++ after)) =
      some (.gap blanks, lexeme.text ++ after) := by
    have blank : isBlank ' ' = true := rfl
    rw [Piece.head, gapHead, if_pos blank, lexeme.dropWhile_isBlank]
    · exact ⟨_, rfl⟩
    · intro s first
      cases first
    · intro s first
      cases first
  obtain ⟨blanks, headed⟩ := headed
  exact ⟨blanks, Piece.split_of_head headed⟩

end Lexeme

/-! The words of a text are what its tokens are without their places. -/

def Piece.word? : Piece → Option (TokenKind × String)
  | gap _ => none
  | token kind text => some (kind, String.ofList text)

theorem Piece.map_word_tokens (start : Nat) (pieces : List Piece) :
    (Piece.tokens start pieces).map Token.word = pieces.filterMap Piece.word? := by
  induction pieces generalizing start with
  | nil => rfl
  | cons piece pieces ih =>
      cases piece with
      | gap text => exact ih _
      | token kind text => exact congrArg _ (ih _)

namespace Lexeme

theorem exists_spaced_cons (gaps : Nat → Nat) (lexeme : Lexeme) (rest : List Lexeme) :
    ∃ after, spaced gaps (lexeme :: rest) = lexeme.text ++ after := by
  cases rest with
  | nil => exact ⟨[], (List.append_nil _).symm⟩
  | cons next rest => exact ⟨_, rfl⟩

theorem split_spaced (gaps : Nat → Nat) (lexemes : List Lexeme) :
    ∃ pieces, Piece.split (spaced gaps lexemes) = (pieces, []) ∧
      pieces.filterMap Piece.word? = lexemes.map word := by
  fun_induction spaced gaps lexemes with
  | case1 => exact ⟨[], Piece.split_nil, rfl⟩
  | case2 last => exact ⟨_, last.scans, rfl⟩
  | case3 lexeme next rest ih =>
      obtain ⟨pieces, split, words⟩ := ih
      -- The gap ends where the next lexeme begins, since that begins with no blank.
      obtain ⟨after, first⟩ := exists_spaced_cons gaps next rest
      rw [first] at split ⊢
      obtain ⟨blanks, splitGap⟩ := next.split_gap_append (gaps rest.length) after
      rw [lexeme.split_append_separator (separates_space _), splitGap, split]
      exact ⟨_, rfl, congrArg _ words⟩

end Lexeme

theorem tokenize_of_split {s : List Char} {pieces : List Piece}
    (split : Piece.split s = (pieces, [])) :
    tokenize (String.ofList s) = .ok (Piece.tokens 0 pieces) := by
  have scanned : scan (String.ofList s) = ⟨Piece.tokens 0 pieces, none⟩ := by
    rw [scan, String.toList_ofList, Scan.ofChars, split]
    rfl
  rw [tokenize, scanned]

theorem Lexeme.tokenize_spaced (gaps : Nat → Nat) (lexemes : List Lexeme) :
    ∃ tokens, tokenize (String.ofList (spaced gaps lexemes)) = .ok tokens ∧
      tokens.map Token.word = lexemes.map word := by
  obtain ⟨pieces, split, words⟩ := split_spaced gaps lexemes
  refine ⟨_, tokenize_of_split split, ?_⟩
  rw [Piece.map_word_tokens, words]

end BindStream
