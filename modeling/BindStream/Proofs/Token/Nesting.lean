import Mathlib
import BindStream.Proofs.Token.Depth

namespace BindStream

/-! Tokens whose parentheses match, and their items: the parts between the commas that are in no
parentheses. -/

/-- Tokens whose parentheses match, by the first one of them. -/
inductive Nested : List Token → Prop
  | nil : Nested []
  | token {token : Token} {later : List Token} (opensNone : token.kind ≠ .leftParen)
      (closesNone : token.kind ≠ .rightParen) (nested : Nested later) : Nested (token :: later)
  | group {opening closing : Token} {content later : List Token}
      (opens : opening.kind = .leftParen) (inside : Nested content)
      (closes : closing.kind = .rightParen) (nested : Nested later) :
      Nested (opening :: (content ++ closing :: later))

/-- Tokens whose parentheses match, but that some more are closed. -/
def NestedUpTo : Nat → List Token → Prop
  | 0, tokens => Nested tokens
  | surplus + 1, tokens =>
    ∃ content closing later, tokens = content ++ closing :: later ∧ Nested content ∧
      closing.kind = .rightParen ∧ NestedUpTo surplus later

variable {token opening closing : Token} {tokens content later : List Token} {depth : Nat}

theorem depthFrom_of_other (opensNone : token.kind ≠ .leftParen)
    (closesNone : token.kind ≠ .rightParen) : token.depthFrom depth = some depth := by
  unfold Token.depthFrom
  split
  · next opens => exact absurd opens opensNone
  · next closes => exact absurd closes closesNone
  · rfl

theorem depthFrom_of_opening (opens : opening.kind = .leftParen) :
    opening.depthFrom depth = some (depth + 1) := by
  simp only [Token.depthFrom, opens]

theorem depthFrom_of_closing (closes : closing.kind = .rightParen) :
    closing.depthFrom (depth + 1) = some depth := by
  simp only [Token.depthFrom, closes]

namespace NestedUpTo

theorem cons (nested : NestedUpTo depth tokens) (opensNone : token.kind ≠ .leftParen)
    (closesNone : token.kind ≠ .rightParen) : NestedUpTo depth (token :: tokens) := by
  cases depth with
  | zero => exact .token opensNone closesNone nested
  | succ depth =>
      obtain ⟨content, closing, later, rfl, inside, closes, nested⟩ := nested
      exact ⟨token :: content, closing, later, rfl, .token opensNone closesNone inside, closes,
        nested⟩

theorem cons_opening (nested : NestedUpTo (depth + 1) tokens) (opens : opening.kind = .leftParen) :
    NestedUpTo depth (opening :: tokens) := by
  obtain ⟨content, closing, later, rfl, inside, closes, nested⟩ := nested
  cases depth with
  | zero => exact .group opens inside closes nested
  | succ depth =>
      obtain ⟨more, last, later, rfl, between, ends, nested⟩ := nested
      refine ⟨opening :: (content ++ closing :: more), last, later, ?_, ?_, ends, nested⟩
      · rw [List.cons_append, List.append_assoc, List.cons_append]
      · exact .group opens inside closes between

theorem of_depthAfter (reached : depthAfter depth tokens = some 0) : NestedUpTo depth tokens := by
  induction tokens generalizing depth with
  | nil =>
      cases reached
      exact .nil
  | cons token tokens ih =>
      obtain ⟨next, stepped, onward⟩ := Option.bind_eq_some_iff.mp reached
      by_cases opens : token.kind = .leftParen
      · cases (depthFrom_of_opening opens).symm.trans stepped
        exact (ih onward).cons_opening opens
      by_cases closes : token.kind = .rightParen
      · cases depth with
        | zero =>
            rw [Token.depthFrom, closes] at stepped
            cases stepped
        | succ depth =>
            cases (depthFrom_of_closing closes).symm.trans stepped
            exact ⟨[], token, tokens, rfl, .nil, closes, ih onward⟩
      · cases (depthFrom_of_other opens closes).symm.trans stepped
        exact (ih onward).cons opens closes

end NestedUpTo

theorem Nested.depthAfter (nested : Nested tokens) (depth : Nat) :
    BindStream.depthAfter depth tokens = some depth := by
  induction nested generalizing depth with
  | nil => rfl
  | token opensNone closesNone _ ih =>
      rw [BindStream.depthAfter, depthFrom_of_other opensNone closesNone]
      exact ih depth
  | group opens _ closes _ inside ih =>
      rw [BindStream.depthAfter, depthFrom_of_opening opens, Option.bind_eq_bind, Option.bind_some,
        depthAfter_append, inside, Option.bind_some, BindStream.depthAfter,
        depthFrom_of_closing closes]
      exact ih depth

theorem balanced_iff_nested : Balanced tokens ↔ Nested tokens := by
  constructor
  · exact NestedUpTo.of_depthAfter
  · intro nested
    exact nested.depthAfter 0

/-! Items. -/

/-- The parts of some tokens between the commas in no parentheses, from inside `depth` of them. -/
def itemsFrom (depth : Nat) : List Token → List (List Token)
  | [] => [[]]
  | token :: tokens =>
    let later := itemsFrom ((token.depthFrom depth).getD 0) tokens
    if depth = 0 ∧ token.kind = .comma then [] :: later else later.modifyHead (token :: ·)

/-- The number of commas in no parentheses. -/
def commasFrom (depth : Nat) : List Token → Nat
  | [] => 0
  | token :: tokens =>
    commasFrom ((token.depthFrom depth).getD 0) tokens +
      if depth = 0 ∧ token.kind = .comma then 1 else 0

def itemsOf (tokens : List Token) : List (List Token) := itemsFrom 0 tokens

def directCommas (tokens : List Token) : Nat := commasFrom 0 tokens

theorem length_itemsFrom (depth : Nat) (tokens : List Token) :
    (itemsFrom depth tokens).length = 1 + commasFrom depth tokens := by
  induction tokens generalizing depth with
  | nil => rfl
  | cons token tokens ih =>
      rw [itemsFrom, commasFrom]
      split
      · rw [List.length_cons, ih, Nat.add_assoc]
      · rw [List.length_modifyHead, ih, Nat.add_zero]

theorem exists_itemsFrom (depth : Nat) (tokens : List Token) :
    ∃ item items, itemsFrom depth tokens = item :: items := by
  apply List.exists_cons_of_length_pos
  rw [length_itemsFrom]
  omega

theorem itemsFrom_comma (comma : token.kind = .comma) :
    itemsFrom 0 (token :: tokens) = [] :: itemsFrom 0 tokens := by
  rw [itemsFrom, if_pos ⟨rfl, comma⟩, Token.depthFrom, comma]
  rfl

theorem itemsFrom_token (opensNone : token.kind ≠ .leftParen) (closesNone : token.kind ≠ .rightParen)
    (inside : ¬(depth = 0 ∧ token.kind = .comma)) :
    itemsFrom depth (token :: tokens) = (itemsFrom depth tokens).modifyHead (token :: ·) := by
  rw [itemsFrom, if_neg inside, depthFrom_of_other opensNone closesNone, Option.getD_some]

theorem itemsFrom_opening (opens : opening.kind = .leftParen) :
    itemsFrom depth (opening :: tokens) =
      (itemsFrom (depth + 1) tokens).modifyHead (opening :: ·) := by
  rw [itemsFrom, if_neg (by simp [opens]), depthFrom_of_opening opens, Option.getD_some]

theorem itemsFrom_closing (closes : closing.kind = .rightParen) :
    itemsFrom (depth + 1) (closing :: tokens) =
      (itemsFrom depth tokens).modifyHead (closing :: ·) := by
  rw [itemsFrom, if_neg (by simp), depthFrom_of_closing closes, Option.getD_some]

/-- In parentheses, tokens whose own match belong to one item. -/
theorem Nested.itemsFrom_append (nested : Nested content) (depth : Nat) (later : List Token) :
    itemsFrom (depth + 1) (content ++ later) =
      (itemsFrom (depth + 1) later).modifyHead (content ++ ·) := by
  induction nested generalizing depth later with
  | nil => exact (congrFun List.modifyHead_id _).symm
  | token opensNone closesNone _ ih =>
      rw [List.cons_append, itemsFrom_token opensNone closesNone (by simp), ih,
        List.modifyHead_modifyHead]
      rfl
  | group opens _ closes _ inside ih =>
      rw [List.cons_append, itemsFrom_opening opens, List.append_assoc, inside, List.cons_append,
        itemsFrom_closing closes, ih, List.modifyHead_modifyHead, List.modifyHead_modifyHead,
        List.modifyHead_modifyHead]
      congr 1
      funext item
      simp

theorem itemsFrom_group (opens : opening.kind = .leftParen) (inside : Nested content)
    (closes : closing.kind = .rightParen) :
    itemsFrom depth (opening :: (content ++ closing :: later)) =
      (itemsFrom depth later).modifyHead fun item => opening :: (content ++ closing :: item) := by
  rw [itemsFrom_opening opens, inside.itemsFrom_append, itemsFrom_closing closes,
    List.modifyHead_modifyHead, List.modifyHead_modifyHead]
  rfl

end BindStream
