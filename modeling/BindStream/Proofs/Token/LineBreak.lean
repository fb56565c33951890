import BindStream.Proofs.Resolver.Spans
import BindStream.Proofs.Token.Separator

namespace BindStream

open Text

/-! A text that goes on behind a line break: the tokens before it and the tokens after it. -/

def Piece.isOpenComment : Piece → Bool
  | gap ('/' :: '*' :: body) => !(['*', '/'].isSuffixOf body)
  | _ => false

/-- Whether a text ends inside a comment that is not closed. -/
def endsInComment (text : String) : Bool :=
  (Piece.split text.toList).1.getLast?.any Piece.isOpenComment

namespace Text

theorem blockComment_append_of_closed {s t : List Char}
    (closed : ['*', '/'] <:+ (blockComment s).1) :
    blockComment (s ++ t) = ((blockComment s).1, (blockComment s).2 ++ t) := by
  fun_induction blockComment s with
  | case1 => simp at closed
  | case2 c => exact absurd closed.length_le (Nat.not_succ_le_self 1)
  | case3 c d s same => simp [blockComment, same]
  | case4 c d s other body rest read ih =>
      -- The end of the comment is not made up of `c` and what the body begins with.
      have inner : ['*', '/'] <:+ body := by
        rcases List.suffix_cons_iff.mp closed with whole | inner
        · exfalso
          obtain ⟨rfl, rfl⟩ := List.cons.inj whole
          have text := blockComment_append (d :: s)
          rw [read] at text
          exact other ⟨rfl, (List.cons.inj text).1.symm⟩
        · exact inner
      rw [read] at ih
      have read' := ih inner
      rw [List.cons_append] at read'
      simp only [List.cons_append, blockComment, if_neg other, read']

theorem blockComment_rest_of_open {s : List Char}
    (unclosed : ¬['*', '/'] <:+ (blockComment s).1) : (blockComment s).2 = [] := by
  fun_induction blockComment s with
  | case1 => rfl
  | case2 c => rfl
  | case3 c d s same => exact absurd List.suffix_rfl unclosed
  | case4 c d s other body rest read ih =>
      rw [read] at ih
      exact ih fun inner => unclosed (inner.trans (List.suffix_cons _ _))

end Text

namespace Piece

variable {start : Nat} {c : Char} {s t text rest : List Char} {kind : TokenKind}

/-- The tokens of a text that begins at octet `start`, and what is left unread. -/
def read (start : Nat) (s : List Char) : List Token × List Char :=
  (tokens start (split s).1, (split s).2)

theorem read_gap (headed : head c s = some (.gap text, rest)) :
    read start (c :: s) = read (start + byteLength text) rest := by
  rw [read, split_of_head headed]
  rfl

theorem read_token (headed : head c s = some (.token kind text, rest)) :
    read start (c :: s) =
      (⟨kind, String.ofList text, ⟨start, start + byteLength text⟩⟩ ::
        (read (start + byteLength text) rest).1, (read (start + byteLength text) rest).2) := by
  rw [read, split_of_head headed]
  rfl

theorem head_of_isBlank (blank : isBlank c = true) (s : List Char) :
    head c s = some (.gap (c :: s.takeWhile isBlank), s.dropWhile isBlank) := by
  rw [head, gapHead_of_isBlank blank]

theorem read_blank (blank : isBlank c = true) :
    read start (c :: s) = read (start + c.utf8Size) s := by
  rw [read_gap (head_of_isBlank blank s), byteLength_cons, ← Nat.add_assoc]
  cases s with
  | nil => rfl
  | cons d s =>
      cases more : isBlank d with
      | true =>
          rw [List.takeWhile_cons_of_pos more, List.dropWhile_cons_of_pos more,
            read_gap (head_of_isBlank more s)]
      | false =>
          have solid : ¬isBlank d = true := Bool.eq_false_iff.mp more
          rw [List.takeWhile_cons_of_neg solid, List.dropWhile_cons_of_neg solid]
          rfl

theorem read_blanks {blanks : List Char} (blank : ∀ c ∈ blanks, isBlank c = true) :
    read start (blanks ++ s) = read (start + byteLength blanks) s := by
  induction blanks generalizing start with
  | nil => rfl
  | cons c blanks ih =>
      rw [List.cons_append, read_blank (blank c List.mem_cons_self),
        ih fun other member => blank other (List.mem_cons_of_mem _ member), byteLength_cons,
        Nat.add_assoc]

/-- A gap is a run of blanks, or a comment that ends at a line break if not before. -/
theorem head_gap_append_newline (headed : head c s = some (.gap text, rest)) :
    (∀ d ∈ text, isBlank d = true) ∨ (Piece.gap text).isOpenComment = true ∧ rest = [] ∨
      ∀ t, head c (s ++ '\n' :: t) = some (.gap text, rest ++ '\n' :: t) := by
  unfold head at headed
  split at headed
  · next gap =>
      cases headed
      unfold gapHead at gap
      split at gap
      · cases gap
        refine .inr (.inr fun t => ?_)
        simp [head, gapHead, lineComment, takeWhile_append_stop, dropWhile_append_stop]
      · next s =>
          cases gap
          by_cases closed : ['*', '/'] <:+ (blockComment s).1
          · refine .inr (.inr fun t => ?_)
            simp [head, gapHead, blockComment_append_of_closed closed]
          · refine .inr (.inl ⟨?_, blockComment_rest_of_open closed⟩)
            rw [isOpenComment, Bool.not_eq_true', ← Bool.not_eq_true, List.isSuffixOf_iff_suffix]
            exact closed
      · split at gap
        · next blank =>
            cases gap
            refine .inl fun d member => ?_
            rcases List.mem_cons.mp member with rfl | member
            · exact blank
            · exact List.all_eq_true.mp List.all_takeWhile d member
        · cases gap
  · obtain ⟨⟨kind, text, rest⟩, -, same⟩ := Option.map_eq_some_iff.mp headed
    cases same

theorem read_newline (start : Nat) (t : List Char) :
    read start ('\n' :: t) = read (start + 1) t := by
  have blank : isBlank '\n' = true := rfl
  exact read_blank blank

/-- Behind a text without an open comment, a line break ends whatever comes before it. -/
theorem read_append_newline {pieces : List Piece} (splits : split s = (pieces, []))
    (closed : pieces.getLast?.any isOpenComment = false) (start : Nat) (t : List Char) :
    read start (s ++ '\n' :: t) =
      (tokens start pieces ++ (read (start + byteLength s + 1) t).1,
        (read (start + byteLength s + 1) t).2) := by
  fun_induction split s generalizing start pieces with
  | case1 =>
      cases splits
      exact read_newline start t
  | case2 c s unheaded => cases splits
  | case3 c s piece rest headed shorter pieces' unread splitRest ih =>
      cases splits
      have tail : pieces'.getLast?.any isOpenComment = false := by
        cases pieces' with
        | nil => rfl
        | cons next more => rwa [List.getLast?_cons_cons] at closed
      have ih := fun start => ih splitRest tail start
      have whole := (head_append headed).1
      have length : byteLength (c :: s) = byteLength piece.text + byteLength rest := by
        rw [← whole, byteLength_append]
      rw [length, ← Nat.add_assoc]
      cases piece with
      | token kind text =>
          rw [List.cons_append, read_token (head_append_separator (separates_newline t) headed), ih]
          rfl
      | gap text =>
          rcases head_gap_append_newline headed with blank | ⟨unclosed, rfl⟩ | comment
          · -- At the end of the text, blanks and line break make up one gap.
            rw [← whole, List.append_assoc, Piece.text, read_blanks blank, ih]
            rfl
          · rw [split_nil] at splitRest
            cases splitRest
            cases closed.symm.trans unclosed
          · rw [List.cons_append, read_gap (comment t), ih]
            rfl

theorem tokens_add (start n : Nat) (pieces : List Piece) :
    tokens (start + n) pieces = (tokens start pieces).map (Token.shift n) := by
  induction pieces generalizing start with
  | nil => rfl
  | cons piece pieces ih =>
      cases piece with
      | gap text =>
          rw [tokens, tokens, ← ih, Nat.add_right_comm]
      | token kind text =>
          rw [tokens, tokens, List.map_cons, ← ih, Nat.add_right_comm]
          rfl

theorem read_add (start n : Nat) (s : List Char) :
    read (start + n) s = ((read start s).1.map (Token.shift n), (read start s).2) := by
  rw [read, tokens_add]
  rfl

theorem byteLength_unread_le (s : List Char) : byteLength (split s).2 ≤ byteLength s := by
  have whole := congrArg byteLength (split_append s)
  rw [byteLength_append] at whole
  omega

end Piece

def UnterminatedLiteral.shift (n : Nat) (failure : UnterminatedLiteral) : UnterminatedLiteral :=
  ⟨failure.span.shift n⟩

/-- The scan of a text with `read` tokens before it, in `n` octets. -/
def Scan.behind (read : List Token) (n : Nat) (scanned : Scan) : Scan :=
  ⟨read ++ scanned.tokens.map (Token.shift n),
    scanned.failure.map (UnterminatedLiteral.shift n)⟩

theorem Scan.behind_behind (before found : List Token) (n m : Nat) (scanned : Scan) :
    (scanned.behind found n).behind before m =
      scanned.behind (before ++ found.map (Token.shift m)) (n + m) := by
  have tokens : Token.shift m ∘ Token.shift n = Token.shift (n + m) := by
    funext token
    simp only [Function.comp, Token.shift, Span.shift, Nat.add_assoc]
  have failures : UnterminatedLiteral.shift m ∘ UnterminatedLiteral.shift n =
      UnterminatedLiteral.shift (n + m) := by
    funext failure
    simp only [Function.comp, UnterminatedLiteral.shift, Span.shift, Nat.add_assoc]
  simp only [behind, List.map_append, List.map_map, Option.map_map, tokens, failures,
    List.append_assoc]

theorem Scan.ofChars_eq_read (s : List Char) :
    Scan.ofChars s =
      ⟨(Piece.read 0 s).1,
        if (Piece.read 0 s).2.isEmpty then none
        else some ⟨⟨byteLength s - byteLength (Piece.read 0 s).2, byteLength s⟩⟩⟩ := rfl

theorem Scan.ofChars_append {before s : List Char} {found : List Token}
    (reads : Piece.read 0 (before ++ s) =
      (found ++ (Piece.read (byteLength before) s).1, (Piece.read (byteLength before) s).2)) :
    Scan.ofChars (before ++ s) = (Scan.ofChars s).behind found (byteLength before) := by
  have fits : byteLength (Piece.read 0 s).2 ≤ byteLength s := Piece.byteLength_unread_le s
  have shifted := Piece.read_add 0 (byteLength before) s
  rw [Nat.zero_add] at shifted
  rw [ofChars_eq_read, ofChars_eq_read, behind, reads, shifted, byteLength_append, Nat.add_comm,
    Nat.sub_add_comm fits]
  congr 1
  split <;> rfl

theorem unread_of_scan {text : String} (whole : (scan text).failure = none) :
    (Piece.split text.toList).2 = [] := by
  rw [scan, Scan.ofChars_eq_read] at whole
  dsimp only at whole
  split at whole
  · next none => exact List.isEmpty_iff.mp none
  · cases whole

/-- Behind a text that is whole, a line break and more add the tokens of what they add. -/
theorem scan_append_newline {text : String} (whole : (scan text).failure = none)
    (closed : endsInComment text = false) (more : String) :
    scan (text ++ "\n" ++ more) =
      (scan more).behind (scan text).tokens (byteLength text.toList + 1) := by
  have splits : Piece.split text.toList = ((Piece.split text.toList).1, []) :=
    Prod.ext rfl (unread_of_scan whole)
  have length : byteLength (text.toList ++ ['\n']) = byteLength text.toList + 1 :=
    byteLength_append _ _
  have chars : (text ++ "\n" ++ more).toList = text.toList ++ ['\n'] ++ more.toList := by
    rw [String.toList_append, String.toList_append]
    rfl
  rw [scan, chars, ← length]
  refine Scan.ofChars_append ?_
  rw [List.append_assoc, length]
  have reads := Piece.read_append_newline splits closed 0 more.toList
  rw [Nat.zero_add] at reads
  exact reads

theorem scan_semicolon (text : String) :
    scan (";" ++ text) = (scan text).behind [⟨.semicolon, ";", ⟨0, 1⟩⟩] 1 := by
  have chars : (";" ++ text).toList = [';'] ++ text.toList := String.toList_append
  rw [scan, chars]
  exact Scan.ofChars_append (Piece.read_token rfl)

end BindStream
