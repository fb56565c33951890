import BindStream.Group

namespace BindStream

/-! The operations on groups that depend on what is in them, as single updates. -/

theorem Columns.fill_length (items : Columns) (column : String) :
    items.fill items.length column = items ++ [some column] := by
  simp [fill]

namespace Group

variable (group inner : Group)

theorem conjunction_of_pending (pending : group.betweenPending = true) :
    group.conjunction = { group with betweenPending := false } := if_pos pending

theorem conjunction_of_not_pending (free : group.betweenPending = false) :
    group.conjunction = group.boundary := by
  rw [conjunction, free]
  rfl

theorem kind_conjunction : group.conjunction.kind = group.kind := by
  unfold conjunction
  split <;> rfl

theorem absorb_eq :
    group.absorb inner =
      { group with
        nearest := inner.firstColumn
        firstColumn := group.firstColumn.or inner.firstColumn
        items :=
          match inner.firstColumn with
          | some column => group.items.fill group.item column
          | none => group.items
        tuple :=
          if 0 < inner.item ∧ inner.kind ≠ .call then some inner.columns
          else if inner.firstColumn.isSome then none else group.tuple } := by
  unfold absorb
  cases inner.firstColumn with
  | none =>
      dsimp only
      split <;> simp
  | some column =>
      dsimp only
      split <;> rfl

end Group

end BindStream
