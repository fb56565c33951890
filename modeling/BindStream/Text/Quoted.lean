namespace BindStream.Text

/-! Quoted texts: a delimiter on either side, and a delimiter inside written twice. -/

def double (q : Char) : List Char → List Char
  | [] => []
  | c :: s => if c = q then q :: q :: double q s else c :: double q s

/-- Writes each pair of delimiters as one, from left to right. -/
def undouble (q : Char) : List Char → List Char
  | [] => []
  | [c] => [c]
  | c :: d :: s => if c = q ∧ d = q then q :: undouble q s else c :: undouble q (d :: s)

def quoted (q : Char) (s : List Char) : List Char := q :: (double q s ++ [q])

/-- A quoted text without its delimiters. -/
def interior (s : List Char) : List Char := s.tail.dropLast

/-- Splits what follows an opening delimiter behind the closing one; `none` if there is none. -/
def closeQuote (q : Char) : List Char → Option (List Char × List Char)
  | [] => none
  | [c] => if c = q then some ([c], []) else none
  | c :: d :: s =>
    if c = q then
      if d = q then (closeQuote q s).map fun (body, rest) => (c :: d :: body, rest)
      else some ([c], d :: s)
    else (closeQuote q (d :: s)).map fun (body, rest) => (c :: body, rest)

theorem undouble_double (q : Char) (s : List Char) : undouble q (double q s) = s := by
  induction s with
  | nil => rfl
  | cons c s ih =>
    by_cases h : c = q
    · subst h
      simp [double, undouble, ih]
    · rw [double, if_neg h]
      cases hs : double q s with
      | nil =>
        rw [hs] at ih
        simp [undouble, ← ih]
      | cons d t => simp [undouble, h, ← hs, ih]

theorem closeQuote_append {q : Char} {s body rest : List Char}
    (h : closeQuote q s = some (body, rest)) : body ++ rest = s := by
  fun_induction closeQuote q s generalizing body with
  | case1 => simp at h
  | case2 => simp_all
  | case3 => simp at h
  | case4 s ih =>
    simp only [Option.map_eq_some_iff, Prod.exists, Prod.mk.injEq] at h
    obtain ⟨b, r, hb, rfl, rfl⟩ := h
    simp [ih hb]
  | case5 =>
    simp only [Option.some.injEq, Prod.mk.injEq] at h
    obtain ⟨rfl, rfl⟩ := h
    rfl
  | case6 c d s hc ih =>
    simp only [Option.map_eq_some_iff, Prod.exists, Prod.mk.injEq] at h
    obtain ⟨b, r, hb, rfl, rfl⟩ := h
    simp [ih hb]

end BindStream.Text
