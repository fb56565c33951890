import BindStream.Proofs.Token.Reader
import BindStream.Proofs.Token.Tiling

namespace BindStream

open Text

/-! A text without tokens is a text that has them, and behind it a quote that nothing closes. -/

variable {c d : Char} {s t u gap word rest : List Char} {kind : TokenKind}

/-! What fits in front of a character that ends words, numbers and operators also fits where the
text ends before it. -/

theorem IsGap.of_append_cons (fits : IsGap gap (u ++ d :: t)) : IsGap gap u := by
  have first : ∀ c ∈ u.head?, c ∈ (u ++ d :: t).head? := by
    cases u with
    | nil => exact nofun
    | cons c u => exact fun _ member => member
  generalize follows : u ++ d :: t = rest at fits first
  cases fits with
  | blanks filled blank ends => exact .blanks filled blank fun c member => ends c (first c member)
  | line within ends => exact .line within fun c member => ends c (first c member)
  | block closes => exact .block closes
  | unclosed never => exact absurd follows (by simp)

theorem IsToken.of_append_stop (stops : Stops d) (fits : IsToken kind word (u ++ d :: t)) :
    IsToken kind word u := by
  cases fits with
  | mark marks => exact .mark marks
  | quotation delimits ends =>
      refine .quotation delimits ?_
      cases u with
      | nil => exact nofun
      | cons c u => exact ends
  | number digit longest =>
      refine .number digit ?_
      rw [← List.append_assoc, numberTail_append_stop stops, Prod.mk.injEq] at longest
      exact Prod.ext longest.1 (List.append_cancel_right longest.2)
  | word starts within ends =>
      refine .word starts within ?_
      cases u with
      | nil => exact nofun
      | cons c u => exact ends
  | operator noMark noDelimiter noDigit noWord noGap longest =>
      rw [← List.append_assoc] at noGap longest
      refine .operator noMark noDelimiter noDigit noWord (gapHead_none_of_append noGap) ?_
      rw [operatorTail_append_stop stops, Prod.mk.injEq] at longest
      exact Prod.ext longest.1 (List.append_cancel_right longest.2)

namespace Piece

variable {piece : Piece} {pieces : List Piece} {unread : List Char}

theorem Fits.of_append_stop (stops : Stops d) (fits : piece.Fits (u ++ d :: t)) :
    piece.Fits u := by
  cases piece with
  | gap gap => exact IsGap.of_append_cons fits
  | token kind word => exact IsToken.of_append_stop stops fits

/-- Cut off before such a character, a text keeps the pieces that it has up to there. -/
theorem split_flatMap_text (stops : Stops d)
    (splits : split (pieces.flatMap Piece.text ++ d :: s) = (pieces, unread)) :
    split (pieces.flatMap Piece.text) = (pieces, []) := by
  induction pieces with
  | nil => exact split_nil
  | cons piece pieces ih =>
      rw [List.flatMap_cons, List.append_assoc] at splits
      obtain ⟨rest, whole, fits, splitRest⟩ := exists_of_split_cons splits
      obtain rfl := List.append_cancel_left whole
      rw [List.flatMap_cons, (fits.of_append_stop stops).split, ih splitRest]

end Piece

theorem mem_quotes_of_ofDelimiter? (delimits : TokenKind.ofDelimiter? c = some kind) :
    c ∈ ['\'', '"', '`'] := by
  unfold TokenKind.ofDelimiter? at delimits
  split at delimits
  case h_4 => cases delimits
  all_goals decide

theorem scan_of_split_nil {text : String} {pieces : List Piece}
    (splits : Piece.split text.toList = (pieces, [])) :
    scan text = ⟨Piece.tokens 0 pieces, none⟩ := by
  rw [scan, Scan.ofChars, splits]
  rfl

theorem scan_failure_of_tokenize_eq_error {text : String} {failure : UnterminatedLiteral}
    (failed : tokenize text = .error failure) : (scan text).failure = some failure := by
  rw [tokenize_eq_scan] at failed
  cases found : (scan text).failure with
  | none =>
      rw [found] at failed
      cases failed
  | some other =>
      rw [found] at failed
      cases failed
      rfl

theorem slice?_beginning {text : String} {before after : List Char}
    (whole : text.toList = before ++ after) :
    Span.slice? ⟨0, byteLength before⟩ text = some (String.ofList before) := by
  simp only [Span.slice?, Span.length?, whole, splitBytes_zero, splitBytes_append,
    Nat.zero_le, if_true, Nat.sub_zero, Option.bind_eq_bind, Option.bind_some, Option.pure_def]

/-- Where a text has no tokens, the span of the failure goes from a quote to the end of the text,
and in between that quote stands in pairs only. What is before it is a text by itself with the
tokens that were read, among them all the markers, and a reader yields nothing behind them and
the failure. -/
theorem unterminated_ends_tokens {text : String} {span : Span}
    (failed : tokenize text = .error ⟨span⟩) :
    ∃ before quote inner,
      text.toList = before.toList ++ quote :: double quote inner ∧
      quote ∈ ['\'', '"', '`'] ∧
      span = ⟨byteLength before.toList, byteLength text.toList⟩ ∧
      Span.slice? ⟨0, span.start⟩ text = some before ∧
      tokenize before = .ok (scan text).tokens ∧
      countMarkers text = countMarkers before ∧
      ∀ n, (TokenReader.start text).yields n =
        ((scan text).tokens.map .ok ++ [.error ⟨span⟩])[n]? := by
  obtain ⟨pieces, quote, rest, kind, splits, delimits, unclosed, rfl⟩ :=
    exists_split_of_tokenize_eq_error failed
  have whole : text.toList = pieces.flatMap Piece.text ++ quote :: rest := by
    have cut := Piece.split_append text.toList
    rw [splits] at cut
    exact cut.symm
  obtain ⟨inner, rfl⟩ := exists_double_of_unclosed unclosed
  let before := String.ofList (pieces.flatMap Piece.text)
  have chars : before.toList = pieces.flatMap Piece.text := String.toList_ofList
  have cut : Piece.split before.toList = (pieces, []) := by
    rw [whole] at splits
    rw [chars]
    exact Piece.split_flatMap_text (stops_of_delimiter delimits) splits
  have read : (scan text).tokens = Piece.tokens 0 pieces := by
    rw [scan, Scan.ofChars, splits]
  have readBefore := scan_of_split_nil cut
  refine ⟨before, quote, inner, ?_, mem_quotes_of_ofDelimiter? delimits, ?_, ?_, ?_, ?_, ?_⟩
  · rw [chars, whole]
  · rw [chars]
  · exact slice?_beginning whole
  · rw [tokenize_eq_scan, readBefore, read]
  · rw [countMarkers, countMarkers, readBefore, read]
  · intro n
    have failure : (scan text).failure =
        some ⟨⟨byteLength (pieces.flatMap Piece.text), byteLength text.toList⟩⟩ :=
      scan_failure_of_tokenize_eq_error failed
    rw [TokenReader.yields_start, Scan.results, failure]
    rfl

theorem unterminated_behind_marker :
    tokenize "é = ? 'it''s ?" = .error ⟨⟨7, 15⟩⟩ ∧
      (∃ tokens, tokenize "é = ? " = .ok tokens ∧ tokens.length = 3) ∧
      countMarkers "é = ? 'it''s ?" = countMarkers "é = ? " ∧
      (TokenReader.start "é = ? 'it''s ?").yields 3 = some (.error ⟨⟨7, 15⟩⟩) ∧
      (TokenReader.start "é = ? 'it''s ?").yields 4 = none := by
  have failed : tokenize "é = ? 'it''s ?" = .error ⟨⟨7, 15⟩⟩ := by cbv
  have three : (scan "é = ? 'it''s ?").tokens.length = 3 := by cbv
  have beginning : Span.slice? ⟨0, 7⟩ "é = ? 'it''s ?" = some "é = ? " := by cbv
  obtain ⟨before, -, -, -, -, -, sliced, tokenized, markers, yields⟩ :=
    unterminated_ends_tokens failed
  obtain rfl : before = "é = ? " := Option.some.inj (sliced.symm.trans beginning)
  refine ⟨failed, ⟨_, tokenized, three⟩, markers, ?_, ?_⟩
  all_goals
    rw [yields]
    cbv

end BindStream
