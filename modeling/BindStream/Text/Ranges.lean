namespace BindStream.Text

/-! Sets of code points, written as ascending ranges. -/

/-- Whether `n` lies in one of the ranges. They ascend, so the search ends at the first range
that begins beyond `n`. -/
def inRanges (n : Nat) : List (Nat × Nat) → Bool
  | [] => false
  | (first, last) :: rest => if n < first then false else n ≤ last || inRanges n rest

end BindStream.Text
