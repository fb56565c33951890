import BindStream.Token.Scan

namespace BindStream

open Text

/-! The tokens of a text lie in it one after the other, each the part that its span covers. -/

/-- One span starts before another and ends where the other starts, or sooner. -/
structure Span.Precedes (first second : Span) : Prop where
  start_lt : first.start < second.start
  stop_le : first.stop ≤ second.start

/-- A token is a part of a text, not an empty one, and its span says which. -/
def Token.Covers (token : Token) (text : List Char) : Prop :=
  ∃ before after,
    text = before ++ token.text.toList ++ after ∧
      token.text.toList ≠ [] ∧
      token.span =
        ⟨byteLength before, byteLength before + byteLength token.text.toList⟩

theorem Text.byteLength_pos {text : List Char} (filled : text ≠ []) :
    0 < byteLength text := by
  cases text with
  | nil => contradiction
  | cons c text =>
      have positive := c.utf8Size_pos
      rw [byteLength_cons]
      omega

namespace Piece

theorem forall_mem_split {motive : Piece → Prop}
    (cut : ∀ {c : Char} {s rest : List Char} {piece : Piece},
      Piece.head c s = some (piece, rest) → motive piece)
    (s : List Char) : ∀ piece ∈ (Piece.split s).1, motive piece := by
  fun_induction Piece.split s with
  | case1 => simp
  | case2 => simp
  | case3 c s piece rest headed shorter pieces unread splitted ih =>
      rw [splitted] at ih
      intro other member
      rcases List.mem_cons.mp member with rfl | member
      · exact cut headed
      · exact ih other member

theorem text_ne_nil_of_mem_split {s : List Char} :
    ∀ piece ∈ (Piece.split s).1, piece.text ≠ [] :=
  forall_mem_split (fun headed => (Piece.head_append headed).2) s

theorem start_le_of_mem_tokens {start : Nat} {pieces : List Piece} {token : Token}
    (member : token ∈ Piece.tokens start pieces) : start ≤ token.span.start := by
  induction pieces generalizing start with
  | nil => simp [Piece.tokens] at member
  | cons piece pieces ih =>
      cases piece with
      | gap text =>
          have later := ih member
          omega
      | token kind text =>
          rcases List.mem_cons.mp member with rfl | member
          · exact Nat.le_refl start
          · have later := ih member
            omega

theorem exists_of_mem_tokens {start : Nat} {pieces : List Piece} {token : Token}
    (member : token ∈ Piece.tokens start pieces) :
    Piece.token token.kind token.text.toList ∈ pieces := by
  induction pieces generalizing start with
  | nil => simp [Piece.tokens] at member
  | cons piece pieces ih =>
      cases piece with
      | gap text => exact List.mem_cons_of_mem _ (ih member)
      | token kind text =>
          rcases List.mem_cons.mp member with rfl | member
          · simp
          · exact List.mem_cons_of_mem _ (ih member)

theorem tokens_pairwise_precedes (start : Nat) {pieces : List Piece}
    (filled : ∀ piece ∈ pieces, piece.text ≠ []) :
    (Piece.tokens start pieces).Pairwise fun first second =>
      first.span.Precedes second.span := by
  induction pieces generalizing start with
  | nil => exact List.Pairwise.nil
  | cons piece pieces ih =>
      have filledTail : ∀ piece ∈ pieces, piece.text ≠ [] :=
        fun other member => filled other (List.mem_cons_of_mem piece member)
      cases piece with
      | gap text => exact ih _ filledTail
      | token kind text =>
          refine List.Pairwise.cons ?_ (ih _ filledTail)
          intro token member
          have later := start_le_of_mem_tokens member
          have positive : 0 < byteLength text :=
            byteLength_pos (filled _ List.mem_cons_self)
          exact ⟨by dsimp only; omega, later⟩

theorem tokens_cover (before after : List Char) {pieces : List Piece}
    (filled : ∀ piece ∈ pieces, piece.text ≠ []) :
    ∀ token ∈ Piece.tokens (byteLength before) pieces,
      token.Covers (before ++ pieces.flatMap Piece.text ++ after) := by
  induction pieces generalizing before with
  | nil => simp [Piece.tokens]
  | cons piece pieces ih =>
      have filledTail : ∀ piece ∈ pieces, piece.text ≠ [] :=
        fun other member => filled other (List.mem_cons_of_mem piece member)
      have tail := ih (before ++ piece.text) filledTail
      rw [byteLength_append] at tail
      simp only [List.flatMap_cons, ← List.append_assoc]
      cases piece with
      | gap text => exact tail
      | token kind text =>
          intro token member
          rcases List.mem_cons.mp member with rfl | member
          · refine ⟨before, pieces.flatMap Piece.text ++ after, ?_, ?_, ?_⟩
            · simp [Piece.text]
            · simpa [Piece.text] using filled _ List.mem_cons_self
            · simp
          · exact tail token member

end Piece

theorem Token.Covers.slice? {token : Token} {text : String}
    (covers : token.Covers text.toList) : token.span.slice? text = some token.text := by
  obtain ⟨before, after, whole, -, place⟩ := covers
  simp only [Span.slice?, Span.length?, place, whole, List.append_assoc, splitBytes_append,
    Nat.le_add_right, if_true, Nat.add_sub_cancel_left, Option.bind_eq_bind, Option.bind_some,
    String.ofList_toList, Option.pure_def]

theorem Token.Covers.place {token : Token} {text : List Char}
    (covers : token.Covers text) :
    token.span.start < token.span.stop ∧ token.span.stop ≤ byteLength text := by
  obtain ⟨before, after, rfl, filled, place⟩ := covers
  have positive : 0 < byteLength token.text.toList := byteLength_pos filled
  rw [place, byteLength_append, byteLength_append]
  exact ⟨Nat.lt_add_of_pos_right positive, Nat.le_add_right _ _⟩

theorem scan_tokens_pairwise_precedes (text : String) :
    (scan text).tokens.Pairwise fun first second => first.span.Precedes second.span :=
  Piece.tokens_pairwise_precedes 0 Piece.text_ne_nil_of_mem_split

theorem scan_tokens_cover (text : String) :
    ∀ token ∈ (scan text).tokens, token.Covers text.toList := by
  have covered := Piece.tokens_cover [] (Piece.split text.toList).2
    (Piece.text_ne_nil_of_mem_split (s := text.toList))
  rw [List.nil_append, Piece.split_append] at covered
  exact covered

end BindStream
