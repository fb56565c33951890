import Mathlib.Data.List.Induction
import BindStream.Proofs.Token.Depth

namespace BindStream

/-! The parentheses that are open behind some tokens. -/

/-- Each token fits the tokens before it. -/
def Throughout (fits : List Token → Token → Prop) (tokens : List Token) : Prop :=
  ∀ before token, before ++ [token] <+: tokens → fits before token

section

variable {fits : List Token → Token → Prop} {tokens : List Token} {token : Token}

theorem throughout_nil : Throughout fits [] := fun _ _ begins =>
  absurd (List.prefix_nil.mp begins) (List.append_ne_nil_of_right_ne_nil _ (List.cons_ne_nil _ _))

theorem throughout_concat :
    Throughout fits (tokens ++ [token]) ↔ Throughout fits tokens ∧ fits tokens token := by
  constructor
  · intro all
    refine ⟨fun before other begins => all before other ?_, all tokens token List.prefix_rfl⟩
    exact begins.trans (List.prefix_append tokens [token])
  · rintro ⟨all, last⟩ before other begins
    rcases List.prefix_concat_iff.mp begins with same | begins
    · obtain ⟨sameBefore, sameToken⟩ := List.append_inj' same rfl
      rw [sameBefore, (List.cons.inj sameToken).1]
      exact last
    · exact all before other begins

theorem throughout_append {first second : List Token} :
    Throughout fits (first ++ second) ↔
      Throughout fits first ∧ Throughout (fun before => fits (first ++ before)) second := by
  induction second using List.reverseRecOn with
  | nil =>
      rw [List.append_nil]
      exact (and_iff_left throughout_nil).symm
  | append_singleton second token ih =>
      rw [← List.append_assoc, throughout_concat, throughout_concat, ih, and_assoc]

/-- The first token that does not fit the tokens before it. -/
theorem throughout_or_exists (fits : List Token → Token → Prop) (tokens : List Token) :
    Throughout fits tokens ∨
      ∃ before token after, tokens = before ++ token :: after ∧ Throughout fits before ∧
        ¬fits before token := by
  induction tokens using List.reverseRecOn with
  | nil => exact .inl throughout_nil
  | append_singleton tokens token ih =>
      rcases ih with all | ⟨before, first, after, rfl, all, misfit⟩
      · by_cases last : fits tokens token
        · exact .inl (throughout_concat.mpr ⟨all, last⟩)
        · exact .inr ⟨tokens, token, [], rfl, all, last⟩
      · exact .inr ⟨before, first, after ++ [token], List.append_assoc .., all, misfit⟩

end

/-- The open parentheses behind a token; one that closes none is passed over. -/
def Token.nest (opened : List Token) (token : Token) : List Token :=
  match token.kind with
  | .leftParen => token :: opened
  | .rightParen => opened.tail
  | _ => opened

/-- The opening parentheses among some tokens that none of them closes, the last one first. -/
def openParens (tokens : List Token) : List Token := tokens.foldl Token.nest []

/-- No token closes a parenthesis where none is open. -/
def NoSurplus : List Token → Prop :=
  Throughout fun before token => token.kind = .rightParen → openParens before ≠ []

variable {tokens : List Token} {token : Token}

theorem openParens_concat :
    openParens (tokens ++ [token]) = token.nest (openParens tokens) :=
  List.foldl_append

theorem depthAfter_concat (depth : Nat) :
    depthAfter depth (tokens ++ [token]) =
      (depthAfter depth tokens).bind fun next => token.depthFrom next := by
  rw [depthAfter_append]
  congr 1
  funext next
  exact Option.bind_fun_some _

theorem depthFrom_length {opened : List Token} {depth : Nat} :
    token.depthFrom opened.length = some depth ↔
      (token.kind = .rightParen → opened ≠ []) ∧ (token.nest opened).length = depth := by
  unfold Token.depthFrom Token.nest
  cases opened <;> split <;> simp_all

theorem depthAfter_eq_some_iff {depth : Nat} :
    depthAfter 0 tokens = some depth ↔ NoSurplus tokens ∧ (openParens tokens).length = depth := by
  induction tokens using List.reverseRecOn generalizing depth with
  | nil =>
      refine ⟨fun same => ⟨throughout_nil, Option.some.inj same⟩, fun same => ?_⟩
      exact congrArg some same.2
  | append_singleton tokens token ih =>
      rw [depthAfter_concat, Option.bind_eq_some_iff, NoSurplus, throughout_concat,
        openParens_concat]
      constructor
      · rintro ⟨before, reached, last⟩
        obtain ⟨all, rfl⟩ := ih.mp reached
        obtain ⟨fits, length⟩ := depthFrom_length.mp last
        exact ⟨⟨all, fits⟩, length⟩
      · rintro ⟨⟨all, fits⟩, length⟩
        exact ⟨_, ih.mpr ⟨all, rfl⟩, depthFrom_length.mpr ⟨fits, length⟩⟩

theorem balanced_iff : Balanced tokens ↔ NoSurplus tokens ∧ openParens tokens = [] := by
  rw [Balanced, depthAfter_eq_some_iff, List.length_eq_zero_iff]

end BindStream
