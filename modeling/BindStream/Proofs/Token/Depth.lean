import BindStream.Token

namespace BindStream

/-! How deep in parentheses a token sequence leads. -/

/-- The depth after a token; `none` if it closes more than is open. -/
def Token.depthFrom (depth : Nat) (token : Token) : Option Nat :=
  match token.kind with
  | .leftParen => some (depth + 1)
  | .rightParen =>
    match depth with
    | 0 => none
    | outer + 1 => some outer
  | _ => some depth

def depthAfter (depth : Nat) : List Token → Option Nat
  | [] => some depth
  | token :: tokens => do
    let next ← token.depthFrom depth
    depthAfter next tokens

def Balanced (tokens : List Token) : Prop := depthAfter 0 tokens = some 0

instance (tokens : List Token) : Decidable (Balanced tokens) :=
  inferInstanceAs (Decidable (_ = _))

theorem depthAfter_append (depth : Nat) (first second : List Token) :
    depthAfter depth (first ++ second) =
      (depthAfter depth first).bind fun next => depthAfter next second := by
  induction first generalizing depth with
  | nil => rfl
  | cons token first ih =>
      change (token.depthFrom depth).bind _ = ((token.depthFrom depth).bind _).bind _
      rw [Option.bind_assoc]
      exact congrArg _ (funext ih)

theorem Balanced.append {first second : List Token} (balanced : Balanced first)
    (later : Balanced second) : Balanced (first ++ second) := by
  have closed : depthAfter 0 first = some 0 := balanced
  rw [Balanced, depthAfter_append, closed]
  exact later

end BindStream
