import BindStream.Text.Quoted

namespace BindStream.Text

/-! A quotation holds a text with its delimiter doubled, and ends where no delimiter follows. -/

variable {q c : Char} {s body rest : List Char}

theorem double_cons_self (q : Char) (s : List Char) : double q (q :: s) = q :: q :: double q s :=
  if_pos rfl

theorem double_cons_of_ne (other : c ≠ q) (s : List Char) :
    double q (c :: s) = c :: double q s :=
  if_neg other

theorem closeQuote_pair (q : Char) (s : List Char) :
    closeQuote q (q :: q :: s) =
      (closeQuote q s).map fun (body, rest) => (q :: q :: body, rest) := by
  rw [closeQuote, if_pos rfl, if_pos rfl]

theorem closeQuote_other (other : c ≠ q) (s : List Char) :
    closeQuote q (c :: s) = (closeQuote q s).map fun (body, rest) => (c :: body, rest) := by
  cases s with
  | nil => exact if_neg other
  | cons d s => rw [closeQuote, if_neg other]

theorem closeQuote_end (ends : rest.head? ≠ some q) :
    closeQuote q (q :: rest) = some ([q], rest) := by
  cases rest with
  | nil => exact if_pos rfl
  | cons d rest =>
      have other : d ≠ q := fun same => ends (congrArg some same)
      rw [closeQuote, if_pos rfl, if_neg other]

theorem closeQuote_double (ends : rest.head? ≠ some q) (s : List Char) :
    closeQuote q (double q s ++ q :: rest) = some (double q s ++ [q], rest) := by
  induction s with
  | nil => exact closeQuote_end ends
  | cons c s ih =>
      by_cases same : c = q
      · subst same
        rw [double_cons_self, List.cons_append, List.cons_append, closeQuote_pair, ih]
        rfl
      · rw [double_cons_of_ne same, List.cons_append, closeQuote_other same, ih]
        rfl

theorem exists_double_of_closeQuote (closed : closeQuote q s = some (body, rest)) :
    (∃ inner, body = double q inner ++ [q]) ∧ rest.head? ≠ some q := by
  fun_induction closeQuote q s generalizing body with
  | case1 => cases closed
  | case2 =>
      cases closed
      exact ⟨⟨[], rfl⟩, (Option.some_ne_none q).symm⟩
  | case3 => cases closed
  | case4 s ih =>
      obtain ⟨⟨body, rest⟩, closed, same⟩ := Option.map_eq_some_iff.mp closed
      cases same
      obtain ⟨⟨inner, rfl⟩, ends⟩ := ih closed
      exact ⟨⟨q :: inner, by rw [double_cons_self]; rfl⟩, ends⟩
  | case5 d s other =>
      cases closed
      exact ⟨⟨[], rfl⟩, fun same => other (Option.some.inj same)⟩
  | case6 c d s other ih =>
      obtain ⟨⟨body, rest⟩, closed, same⟩ := Option.map_eq_some_iff.mp closed
      cases same
      obtain ⟨⟨inner, rfl⟩, ends⟩ := ih closed
      exact ⟨⟨c :: inner, by rw [double_cons_of_ne other]; rfl⟩, ends⟩

theorem closeQuote_eq_some_iff :
    closeQuote q s = some (body, rest) ↔
      ∃ inner, body = double q inner ++ [q] ∧ s = body ++ rest ∧ rest.head? ≠ some q := by
  constructor
  · intro closed
    obtain ⟨⟨inner, doubled⟩, ends⟩ := exists_double_of_closeQuote closed
    exact ⟨inner, doubled, (closeQuote_append closed).symm, ends⟩
  · rintro ⟨inner, rfl, rfl, ends⟩
    rw [List.append_assoc]
    exact closeQuote_double ends inner

/-- Where nothing closes a quotation, its delimiter stands in pairs only. -/
theorem exists_double_of_unclosed (unclosed : closeQuote q s = none) :
    ∃ inner, s = double q inner := by
  fun_induction closeQuote q s with
  | case1 => exact ⟨[], rfl⟩
  | case2 => cases unclosed
  | case3 c other => exact ⟨[c], (double_cons_of_ne other []).symm⟩
  | case4 s ih =>
      obtain ⟨inner, rfl⟩ := ih (Option.map_eq_none_iff.mp unclosed)
      exact ⟨q :: inner, (double_cons_self q inner).symm⟩
  | case5 => cases unclosed
  | case6 c d s other ih =>
      obtain ⟨inner, same⟩ := ih (Option.map_eq_none_iff.mp unclosed)
      exact ⟨c :: inner, by rw [double_cons_of_ne other, same]⟩

end BindStream.Text
