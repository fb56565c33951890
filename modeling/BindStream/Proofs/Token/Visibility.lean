import BindStream.Proofs.Resolver.Markers
import BindStream.Proofs.Token.Surroundings

namespace BindStream

open Text Surroundings

/-! The markers of a text are the question marks that a scan by single characters comes to outside
quotations and comments, but that no comment opens within a number: an exponent may end in a dash,
and takes the first of two that follow its letter. -/

def Token.isNumberAt (offset : Nat) (token : Token) : Bool :=
  token.kind == .number && decide (token.span.start ≤ offset ∧ offset < token.span.stop)

variable {c : Char} {s : List Char} {shielded : Nat → Bool} {start offset : Nat}

theorem Token.isNumberAt_of_lt {token : Token} (before : offset < token.span.start) :
    token.isNumberAt offset = false := by
  rw [isNumberAt, decide_eq_false, Bool.and_false]
  omega

theorem Token.isNumberAt_of_le {token : Token} (behind : token.span.stop ≤ offset) :
    token.isNumberAt offset = false := by
  rw [isNumberAt, decide_eq_false, Bool.and_false]
  omega

theorem questionMarks_split
    (agree : ∀ x, start ≤ x →
      shielded x = (Piece.tokens start (Piece.split s).1).any (Token.isNumberAt x)) :
    questionMarks shielded code start s =
      ((Piece.tokens start (Piece.split s).1).filter Token.isMarker).map (·.span.start) := by
  fun_induction Piece.split s generalizing start with
  | case1 => rfl
  | case2 c s unheaded =>
      obtain ⟨kind, delimits, unclosed⟩ := Piece.closeQuote_of_head_none unheaded
      rw [code_quote (quote_of_delimiter delimits), quotation_unclosed unclosed]
      rfl
  | case3 c s piece rest headed shorter pieces unread splitRest ih =>
      rw [splitRest] at ih
      obtain ⟨fits, whole⟩ := Piece.head_eq_some_iff.mp headed
      rw [← whole]
      cases piece with
      | gap gap =>
          have positive := byteLength_pos (IsGap.filled fits)
          have exposed : shielded start = false := by
            rw [agree start (Nat.le_refl _), List.any_eq_false]
            intro token member
            have later : start + byteLength gap ≤ token.span.start :=
              Piece.start_le_of_mem_tokens member
            rw [Token.isNumberAt_of_lt (by omega)]
            exact Bool.false_ne_true
          exact (code_gap fits exposed).trans (ih fun x behind => agree x (by omega))
      | token kind text =>
          have within : kind = .number →
              ∀ x, start ≤ x → x < start + byteLength text → shielded x = true := by
            rintro rfl x low high
            rw [agree x low, Piece.tokens, List.any_cons, Token.isNumberAt]
            simp [low, high]
          have behind : ∀ x, start + byteLength text ≤ x →
              shielded x =
                (Piece.tokens (start + byteLength text) pieces).any (Token.isNumberAt x) := by
            intro x behind
            rw [agree x (by omega), Piece.tokens, List.any_cons, Token.isNumberAt_of_le behind,
              Bool.false_or]
          refine (code_token fits within).trans ?_
          rw [ih behind, Piece.tokens, List.filter_cons]
          by_cases marker : kind = .marker
          · subst marker
            rfl
          · have other : (kind == TokenKind.marker) = false := beq_false_of_ne marker
            rw [if_neg marker, Token.isMarker, other]
            rfl

/-- No two dashes of a text from `offset` on begin where `shielded` holds. -/
def Exposed (shielded : Nat → Bool) (offset : Nat) (s : List Char) : Prop :=
  ∀ before after, s = before ++ '-' :: '-' :: after → shielded (offset + byteLength before) = false

theorem Exposed.tail (exposed : Exposed shielded offset (c :: s)) :
    Exposed shielded (offset + c.utf8Size) s := by
  rintro before after rfl
  rw [Nat.add_assoc, ← byteLength_cons]
  exact exposed (c :: before) after rfl

theorem questionMarks_of_exposed {surroundings : Surroundings}
    (exposed : Exposed shielded offset s) :
    questionMarks shielded surroundings offset s =
      questionMarks (fun _ => false) surroundings offset s := by
  fun_induction questionMarks shielded surroundings offset s with
  | case1 => rw [questionMarks]
  | case2 offset s hidden =>
      have shown := exposed [] s rfl
      rw [byteLength_nil, Nat.add_zero, hidden] at shown
      cases shown
  | case3 offset s _ ih => rw [code_dashes rfl, ih exposed.tail.tail]
  | case4 offset s ih => rw [code_slash_star, ih exposed.tail.tail]
  | case5 offset s _ _ next ih =>
      rw [code_mark, ih exposed.tail]
      rfl
  | case6 offset c s _ _ next _ quote ih => rw [code_quote quote, ih exposed.tail]
  | case7 offset c s noLine noBlock next noMark noQuote ih =>
      rw [ih exposed.tail, code_pass noMark noQuote]
      · intro dash first
        obtain ⟨rest, rfl⟩ := List.head?_eq_some_iff.mp first
        exact absurd rfl (noLine rest dash)
      · intro slash first
        obtain ⟨rest, rfl⟩ := List.head?_eq_some_iff.mp first
        exact noBlock rest slash rfl
  | case8 => rw [questionMarks]
  | case9 offset q s next ih => rw [quotation_pair, ih exposed.tail.tail]
  | case10 offset q d s next other ih =>
      have ends : (d :: s).head? ≠ some q := fun same => other (Option.some.inj same)
      rw [quotation_end ends, ih exposed.tail]
  | case11 q offset c d s next other ih => rw [quotation_other other, ih exposed.tail]
  | case12 offset c s ih => rw [lineComment_cons, ih exposed.tail]
  | case13 offset s ih => rw [blockComment_end, ih exposed.tail.tail]
  | case14 offset c s inside ih =>
      rw [blockComment_pass, ih exposed.tail]
      rintro ⟨star, first⟩
      obtain ⟨rest, rfl⟩ := List.head?_eq_some_iff.mp first
      exact inside rest star rfl

/-- Whether a number has the octet at `offset`. -/
def insideNumber (text : String) (offset : Nat) : Bool :=
  (scan text).tokens.any (Token.isNumberAt offset)

/-- The offsets of the question marks in code, a comment opening wherever two dashes stand. -/
def visibleMarks (text : String) : List Nat :=
  questionMarks (fun _ => false) code 0 text.toList

/-- The markers of a text are the question marks in code. Dashes open a comment there unless they
begin within a number, and do so wherever they stand if none begin within one. -/
theorem markers_are_visible (text : String) :
    (markers text).map (·.span.start) =
        questionMarks (insideNumber text) code 0 text.toList ∧
      ((∀ before after, text.toList = before ++ '-' :: '-' :: after →
          insideNumber text (byteLength before) = false) →
        (markers text).map (·.span.start) = visibleMarks text ∧
        countMarkers text = (visibleMarks text).length ∧
        ∀ found, resolve text = .ok found → found.map (·.span.start) = visibleMarks text) := by
  have marked : (markers text).map (·.span.start) =
      questionMarks (insideNumber text) code 0 text.toList :=
    (questionMarks_split fun _ _ => rfl).symm
  refine ⟨marked, fun exposed => ?_⟩
  have visible : (markers text).map (·.span.start) = visibleMarks text := by
    rw [marked, visibleMarks, questionMarks_of_exposed]
    intro before after whole
    rw [Nat.zero_add]
    exact exposed before after whole
  refine ⟨visible, ?_, fun found resolved => ?_⟩
  · rw [← visible, List.length_map, length_markers]
  · have spans := congrArg (List.map Span.start) (map_span_of_resolve resolved)
    rw [List.map_map, List.map_map] at spans
    exact spans.trans visible

theorem markers_are_visible_beside_exponent :
    (∀ before after, "x > 1e-5 - ? --?".toList = before ++ '-' :: '-' :: after →
        insideNumber "x > 1e-5 - ? --?" (byteLength before) = false) ∧
      (markers "x > 1e-5 - ? --?").map (·.span.start) = visibleMarks "x > 1e-5 - ? --?" ∧
      visibleMarks "x > 1e-5 - ? --?" = [11] := by
  have exposed : ∀ before after, "x > 1e-5 - ? --?".toList = before ++ '-' :: '-' :: after →
      insideNumber "x > 1e-5 - ? --?" (byteLength before) = false := by
    intro before after whole
    have only : before = "x > 1e-5 - ? ".toList ∧ after = ['?'] := by
      simpa [List.cons_eq_append_iff] using whole
    rw [only.1]
    cbv
  exact ⟨exposed, ((markers_are_visible _).2 exposed).1, by cbv⟩

/-- The exponent of `1e-` takes the first of the two dashes, and no comment opens. -/
theorem marker_behind_dashes_of_exponent :
    (markers "WHERE a = 1e--?").map (·.span.start) = [14] ∧
      visibleMarks "WHERE a = 1e--?" = [] := by
  constructor <;> cbv

end BindStream
