import Mathlib
import BindStream.Proofs.Token.LineBreak
import BindStream.Token.Reader

namespace BindStream

open Text

/-! A reader yields the tokens of a text, then the failure if there is one, and then nothing for
good. Behind a line break it reads as though the text began there. -/

/-- The tokens of a text one after the other, and its failure behind them. -/
def Scan.results (scan : Scan) : List (Except UnterminatedLiteral Token) :=
  scan.tokens.map .ok ++ (scan.failure.map .error).toList

namespace TokenReader

variable {c : Char} {s text rest : List Char} {position : Nat} {kind : TokenKind}
variable {reader other : TokenReader}

/-- What a text that begins at octet `position` has to yield. -/
def results (position : Nat) (s : List Char) : List (Except UnterminatedLiteral Token) :=
  let (tokens, unread) := Piece.read position s
  tokens.map .ok ++
    if unread.isEmpty then []
    else [.error ⟨⟨position + byteLength s - byteLength unread, position + byteLength s⟩⟩]

theorem results_zero (text : String) : results 0 text.toList = (scan text).results := by
  rw [results, Scan.results, scan, Scan.ofChars_eq_read]
  dsimp only
  rw [Nat.zero_add]
  split <;> rfl

theorem results_nil (position : Nat) : results position [] = [] := by
  rw [results, Piece.read, Piece.split_nil]
  rfl

theorem results_of_head_none (unheaded : Piece.head c s = none) :
    results position (c :: s) = [.error ⟨⟨position, position + byteLength (c :: s)⟩⟩] := by
  rw [results, Piece.read, Piece.split_of_head_none unheaded]
  dsimp only
  rw [Nat.add_sub_cancel]
  rfl

theorem byteLength_of_head {piece : Piece} (headed : Piece.head c s = some (piece, rest)) :
    byteLength (c :: s) = byteLength piece.text + byteLength rest := by
  rw [← byteLength_append, (Piece.head_append headed).1]

theorem results_of_gap (headed : Piece.head c s = some (.gap text, rest)) :
    results position (c :: s) = results (position + byteLength text) rest := by
  rw [results, results, Piece.read_gap headed, byteLength_of_head headed, Nat.add_assoc]
  rfl

theorem results_of_token (headed : Piece.head c s = some (.token kind text, rest)) :
    results position (c :: s) =
      .ok ⟨kind, String.ofList text, ⟨position, position + byteLength text⟩⟩ ::
        results (position + byteLength text) rest := by
  rw [results, results, Piece.read_token headed, byteLength_of_head headed, Nat.add_assoc]
  rfl

theorem yields_congr (same : reader.next = other.next) (n : Nat) :
    reader.yields n = other.yields n := by
  cases n with
  | zero => rw [yields, yields, same]
  | succ n => rw [yields, yields, same]

theorem yields_of_exhausted (exhausted : reader.next = (none, reader)) (n : Nat) :
    reader.yields n = none := by
  induction n with
  | zero => rw [yields, exhausted]
  | succ n ih => rw [yields, exhausted, ih]

theorem yields_eq (position : Nat) (s : List Char) (n : Nat) :
    yields ⟨s, position, false⟩ n = (results position s)[n]? := by
  fun_induction Piece.split s generalizing position n with
  | case1 =>
      have exhausted : next ⟨[], position, false⟩ = _ := nextFrom_nil position
      rw [results_nil]
      exact yields_of_exhausted exhausted n
  | case2 c s unheaded =>
      have fails : next ⟨c :: s, position, false⟩ = _ := nextFrom_of_head_none unheaded
      rw [results_of_head_none unheaded]
      cases n with
      | zero =>
          rw [yields, fails]
          rfl
      | succ n =>
          rw [yields, fails]
          exact yields_of_exhausted rfl n
  | case3 c s piece rest headed shorter pieces unread splitRest ih =>
      cases piece with
      | gap text =>
          have passes : next ⟨c :: s, position, false⟩ =
              next ⟨rest, position + byteLength text, false⟩ := nextFrom_of_gap headed
          rw [results_of_gap headed, ← ih]
          exact yields_congr passes n
      | token kind text =>
          have reads : next ⟨c :: s, position, false⟩ = _ := nextFrom_of_token headed
          rw [results_of_token headed]
          cases n with
          | zero =>
              rw [yields, reads]
              rfl
          | succ n =>
              rw [yields, reads]
              exact ih _ n

/-- A reader from the start of a text yields what its scan lists, and nothing behind that. -/
theorem yields_start (text : String) (n : Nat) :
    (start text).yields n = (scan text).results[n]? := by
  rw [← results_zero]
  exact yields_eq 0 text.toList n

end TokenReader

/-! A text and one behind it, with a line break between them. -/

/-- A token or a failure as far on in another text. -/
def shiftResult (n : Nat) (result : Except UnterminatedLiteral Token) :
    Except UnterminatedLiteral Token :=
  (result.map (Token.shift n)).mapError (UnterminatedLiteral.shift n)

theorem Scan.results_behind (read : List Token) (n : Nat) (scanned : Scan) :
    (scanned.behind read n).results = read.map .ok ++ scanned.results.map (shiftResult n) := by
  rw [results, results, behind]
  dsimp only
  rw [List.map_append, List.map_append, List.map_map, List.map_map, List.append_assoc]
  cases scanned.failure <;> rfl

theorem tokenize_eq_scan (text : String) :
    tokenize text =
      match (scan text).failure with
      | some failure => .error failure
      | none => .ok (scan text).tokens := rfl

theorem tokenize_of_behind {text other : String} {read : List Token} {n : Nat}
    (scanned : scan text = (scan other).behind read n) :
    tokenize text =
      ((tokenize other).map fun tokens => read ++ tokens.map (Token.shift n)).mapError
        (UnterminatedLiteral.shift n) := by
  rw [tokenize_eq_scan, tokenize_eq_scan, scanned, Scan.behind]
  cases (scan other).failure <;> rfl

/-- A line break behind a text that is whole parts it from what follows: the tokens are those of
the one and, further on by the octets before them, those of the other, whose failure is the only
one. A reader that has come to the line break goes on as one that starts behind it. -/
theorem tokenize_lines {first : String} {tokens : List Token}
    (tokenized : tokenize first = .ok tokens) (closed : endsInComment first = false)
    (second : String) :
    tokenize (first ++ "\n" ++ second) =
      ((tokenize second).map fun others =>
        tokens ++ others.map (Token.shift (byteLength first.toList + 1))).mapError
          (UnterminatedLiteral.shift (byteLength first.toList + 1)) ∧
    scan (first ++ "\n" ++ second) =
      (scan second).behind tokens (byteLength first.toList + 1) ∧
    ∀ n, (TokenReader.start (first ++ "\n" ++ second)).yields (tokens.length + n) =
      ((TokenReader.start second).yields n).map (shiftResult (byteLength first.toList + 1)) := by
  obtain ⟨whole, rfl⟩ := tokenize_eq_ok tokenized
  have scanned := scan_append_newline whole closed second
  refine ⟨tokenize_of_behind scanned, scanned, fun n => ?_⟩
  rw [TokenReader.yields_start, TokenReader.yields_start, scanned, Scan.results_behind,
    List.getElem?_append_right, List.length_map, Nat.add_sub_cancel_left, List.getElem?_map]
  rw [List.length_map]
  exact Nat.le_add_right _ _

/-- A comment ends at the line break: the reader goes on with the operator behind it, and the text
fails at the quote of its second line. -/
theorem tokenize_lines_behind_comment :
    tokenize "a = ? --" = .ok (scan "a = ? --").tokens ∧ endsInComment "a = ? --" = false ∧
      tokenize ("a = ? --" ++ "\n" ++ "> 'b") = .error ⟨⟨11, 13⟩⟩ ∧
      (TokenReader.start ("a = ? --" ++ "\n" ++ "> 'b")).yields 3 =
        some (.ok ⟨.operator, ">", ⟨9, 10⟩⟩) := by
  have tokenized : tokenize "a = ? --" = .ok (scan "a = ? --").tokens := by cbv
  have closed : endsInComment "a = ? --" = false := by cbv
  obtain ⟨joined, -, yields⟩ := tokenize_lines tokenized closed "> 'b"
  have three : (scan "a = ? --").tokens.length = 3 := by cbv
  refine ⟨tokenized, closed, joined.trans ?_, ?_⟩
  · cbv
  · rw [three] at yields
    exact (yields 0).trans (by cbv)

end BindStream
