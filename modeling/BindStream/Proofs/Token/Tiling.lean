import BindStream.Proofs.Token.Grammar
import BindStream.Proofs.Token.LineBreak
import BindStream.Proofs.Token.Place

namespace BindStream

open Text

/-! The tokens of a text and the layout between them make up the text, up to a quoted text without
its end. -/

/-- Blanks and comments one after the other, with `rest` behind them. -/
inductive Layout : List Char → List Char → Prop
  | nil {rest : List Char} : Layout [] rest
  | cons {gap layout rest : List Char} (first : IsGap gap (layout ++ rest))
      (more : Layout layout rest) : Layout (gap ++ layout) rest

/-- Tokens from octet `start` on, with layout before each and layout alone from the last one to
what is left unread. -/
inductive Tiles (unread : List Char) : Nat → List Token → List Char → Prop
  | last {start : Nat} {layout : List Char} (spaced : Layout layout unread) :
      Tiles unread start [] (layout ++ unread)
  | token {start : Nat} {layout rest : List Char} {token : Token} {tokens : List Token}
      (spaced : Layout layout (token.text.toList ++ rest)) (filled : token.text.toList ≠ [])
      (starts : token.span.start = start + byteLength layout)
      (stops : token.span.stop = token.span.start + byteLength token.text.toList)
      (more : Tiles unread token.span.stop tokens rest) :
      Tiles unread start (token :: tokens) (layout ++ (token.text.toList ++ rest))

variable {start : Nat} {gap s text rest unread : List Char} {tokens : List Token}
variable {kind : TokenKind}

theorem Tiles.behind_gap (fits : IsGap gap s)
    (tiles : Tiles unread (start + byteLength gap) tokens s) :
    Tiles unread start tokens (gap ++ s) := by
  cases tiles with
  | last spaced =>
      rw [← List.append_assoc]
      exact .last (.cons fits spaced)
  | token spaced filled starts stops more =>
      rw [← List.append_assoc]
      refine .token (.cons fits spaced) filled ?_ stops more
      rw [starts, byteLength_append, Nat.add_assoc]

theorem Tiles.behind_token (filled : text ≠ [])
    (tiles : Tiles unread (start + byteLength text) tokens rest) :
    Tiles unread start
      (⟨kind, String.ofList text, ⟨start, start + byteLength text⟩⟩ :: tokens) (text ++ rest) := by
  have chars : (String.ofList text).toList = text := String.toList_ofList
  have placed := @Tiles.token unread start [] rest
    ⟨kind, String.ofList text, ⟨start, start + byteLength text⟩⟩ tokens .nil
  dsimp only at placed
  rw [chars] at placed
  exact placed filled rfl rfl tiles

theorem tiles_split (start : Nat) (s : List Char) :
    Tiles (Piece.split s).2 start (Piece.tokens start (Piece.split s).1) s := by
  fun_induction Piece.split s generalizing start with
  | case1 => exact .last .nil
  | case2 => exact .last .nil
  | case3 c s piece rest headed shorter pieces unread splitRest ih =>
      rw [splitRest] at ih
      obtain ⟨fits, whole⟩ := Piece.head_eq_some_iff.mp headed
      rw [← whole]
      cases piece with
      | gap gap => exact (ih _).behind_gap fits
      | token kind text => exact (ih _).behind_token (IsToken.filled fits)

theorem head_of_unread {c : Char} (left : (Piece.split s).2 = c :: rest) :
    Piece.head c rest = none := by
  fun_induction Piece.split s with
  | case1 => cases left
  | case2 c s unheaded =>
      cases left
      exact unheaded
  | case3 c s piece rest headed shorter pieces unread splitRest ih =>
      rw [splitRest] at ih
      exact ih left

/-- Where a text has no tokens, its pieces end before a quote that nothing closes. -/
theorem exists_split_of_tokenize_eq_error {text : String} {span : Span}
    (failed : tokenize text = .error ⟨span⟩) :
    ∃ pieces quote rest kind, Piece.split text.toList = (pieces, quote :: rest) ∧
      TokenKind.ofDelimiter? quote = some kind ∧ closeQuote quote rest = none ∧
      span = ⟨byteLength (pieces.flatMap Piece.text), byteLength text.toList⟩ := by
  have whole := Piece.split_append text.toList
  have headless {c : Char} {rest : List Char} := @head_of_unread text.toList rest c
  rw [tokenize, scan, Scan.ofChars] at failed
  cases splits : Piece.split text.toList with
  | mk pieces unread =>
      rw [splits] at whole headless failed
      cases unread with
      | nil => cases failed
      | cons quote rest =>
          obtain ⟨kind, delimits, unclosed⟩ := Piece.closeQuote_of_head_none (headless rfl)
          refine ⟨pieces, quote, rest, kind, rfl, delimits, unclosed, ?_⟩
          have length : byteLength text.toList =
              byteLength (pieces.flatMap Piece.text) + byteLength (quote :: rest) := by
            rw [← byteLength_append, whole]
          cases failed
          rw [length, Nat.add_sub_cancel]

/-- A text without tokens has, behind tokens and layout, a quote that nothing closes. -/
theorem tokenize_eq_error {text : String} {span : Span} (failed : tokenize text = .error ⟨span⟩) :
    ∃ before quote rest kind, text.toList = before ++ quote :: rest ∧
      TokenKind.ofDelimiter? quote = some kind ∧ closeQuote quote rest = none ∧
      Tiles (quote :: rest) 0 (scan text).tokens text.toList ∧
      span = ⟨byteLength before, byteLength text.toList⟩ := by
  obtain ⟨pieces, quote, rest, kind, splits, delimits, unclosed, place⟩ :=
    exists_split_of_tokenize_eq_error failed
  have whole := Piece.split_append text.toList
  have tiles := tiles_split 0 text.toList
  rw [splits] at whole
  refine ⟨_, quote, rest, kind, whole.symm, delimits, unclosed, ?_, place⟩
  rw [scan, Scan.ofChars]
  rw [splits] at tiles ⊢
  exact tiles

/-- The tokens of a text lie in it one after the other, each the part that its span covers, and
what no token covers is blanks and comments; a text without failure is covered to its end. -/
theorem scan_tiles (text : String) :
    (∃ unread, Tiles unread 0 (scan text).tokens text.toList ∧
      ((scan text).failure = none ↔ unread = []) ∧
      ∀ failure, (scan text).failure = some failure →
        failure.span = ⟨byteLength text.toList - byteLength unread, byteLength text.toList⟩) ∧
    (scan text).tokens.Pairwise (fun first second => first.span.Precedes second.span) ∧
    ∀ token ∈ (scan text).tokens,
      token.span.start < token.span.stop ∧ token.span.stop ≤ byteLength text.toList ∧
        token.span.slice? text = some token.text := by
  refine ⟨⟨(Piece.split text.toList).2, tiles_split 0 text.toList, ?_, ?_⟩,
    scan_tokens_pairwise_precedes text, ?_⟩
  · refine ⟨unread_of_scan, fun nothing => ?_⟩
    rw [scan, Scan.ofChars]
    dsimp only
    rw [nothing]
    rfl
  · intro failure failed
    rw [scan, Scan.ofChars] at failed
    dsimp only at failed
    split at failed
    · cases failed
    · cases failed
      rfl
  · intro token member
    have covers := scan_tokens_cover text token member
    exact ⟨covers.place.1, covers.place.2, covers.slice?⟩

end BindStream
