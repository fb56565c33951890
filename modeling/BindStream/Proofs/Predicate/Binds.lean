import BindStream.Proofs.Predicate.Words

namespace BindStream

/-! Parts of a statement that bind their markers to given columns. -/

/-- A group in which no marker binds by position, whatever it has shown. -/
def Group.Plain (group : Group) : Prop := group.kind = .root ∨ group.kind = .nested

theorem Group.Plain.positional {group : Group} (plain : group.Plain) :
    group.positional [] = none := by
  unfold Group.positional
  rcases plain with kind | kind <;> simp only [kind, ite_self]

namespace Resolver

/-- Read in a group, some lexemes bind their markers to columns and leave no `BETWEEN` that waits
for its `AND`. -/
def Binds (lexemes : List Lexeme) (columns : List String) (group : Group) : Prop :=
  ∀ (outer : List Group) (parameters : List Parameter) (rest : List Token),
    ∃ (after : Group) (found : List Parameter),
      (settled group outer parameters).run (lexemes.map Lexeme.token ++ rest) =
        (settled after outer (parameters ++ found)).run rest ∧
      found.map Parameter.column = columns ∧
      after.kind = group.kind ∧ after.betweenPending = false

/-- A lexeme that turns one group into another and binds nothing. -/
def Turns (lexeme : Lexeme) (group next : Group) : Prop :=
  ∀ (outer : List Group) (parameters : List Parameter) (rest : List Token),
    (settled group outer parameters).run (lexeme.token :: rest) =
      (settled next outer parameters).run rest

namespace Binds

variable {lexeme : Lexeme} {first second : List Lexeme} {group next : Group}
variable {column : String} {columns later : List String}

theorem nil (free : group.betweenPending = false) : Binds [] [] group := by
  intro outer parameters rest
  refine ⟨group, [], ?_, rfl, rfl, free⟩
  rw [List.append_nil]
  rfl

theorem cons (turns : Turns lexeme group next) (kind : next.kind = group.kind)
    (binds : Binds first columns next) : Binds (lexeme :: first) columns group := by
  intro outer parameters rest
  obtain ⟨after, found, ran, bound, kept, free⟩ := binds outer parameters rest
  exact ⟨after, found, (turns outer parameters _).trans ran, bound, kept.trans kind, free⟩

theorem marker (plain : group.Plain) (nearest : group.nearest = some column)
    (binds : Binds first columns group) :
    Binds (.marker :: first) (column :: columns) group := by
  intro outer parameters rest
  obtain ⟨after, found, ran, bound, kept, free⟩ :=
    binds outer (parameters ++ [Resolver.bound parameters column]) rest
  refine ⟨after, Resolver.bound parameters column :: found, ?_, ?_, kept, free⟩
  · rw [List.append_cons, ← ran]
    exact run_marker (column?_of_nearest plain.positional nearest)
  · rw [List.map_cons, bound]
    rfl

theorem append (binds : Binds first columns group)
    (continues : ∀ after : Group, after.kind = group.kind → after.betweenPending = false →
      Binds second later after) :
    Binds (first ++ second) (columns ++ later) group := by
  intro outer parameters rest
  obtain ⟨middle, found, ran, bound, kind, free⟩ :=
    binds outer parameters (second.map Lexeme.token ++ rest)
  obtain ⟨after, more, ran', bound', kind', free'⟩ :=
    continues middle kind free outer (parameters ++ found) rest
  refine ⟨after, found ++ more, ?_, ?_, kind'.trans kind, free'⟩
  · rw [List.map_append, List.append_assoc, ran, ran', List.append_assoc]
  · rw [List.map_append, bound, bound']

end Binds

variable {group : Group}

theorem turns_operator (operator : Operator) : Turns operator.lexeme group group :=
  fun _ _ _ => run_operator operator

theorem turns_literal (literal : Literal) : Turns literal.lexeme group group :=
  fun _ _ _ => run_literal literal

theorem turns_comma : Turns .comma group group.nextItem := fun _ _ _ => run_comma

theorem turns_keyword {keyword : Keyword}
    (silent : keyword ∈ [Keyword.NOT, .IN, .LIKE, .DELETE, .UPDATE]) :
    Turns keyword.lexeme group group := by
  intro outer parameters rest
  apply run_cons_of_ok
  simp only [List.mem_cons, List.not_mem_nil, or_false] at silent
  rcases silent with rfl | rfl | rfl | rfl | rfl <;> rfl

theorem turns_between :
    Turns Keyword.BETWEEN.lexeme group { group with betweenPending := true } :=
  fun _ _ _ => run_cons_of_ok rfl

theorem turns_or : Turns Keyword.OR.lexeme group group.boundary :=
  fun _ _ _ => run_cons_of_ok rfl

theorem turns_and : Turns Keyword.AND.lexeme group group.conjunction :=
  fun _ _ _ => run_cons_of_ok rfl

theorem turns_clause {keyword : Keyword}
    (opens : keyword ∈ [Keyword.SELECT, .FROM, .WHERE, .SET]) :
    Turns keyword.lexeme group group.boundary := by
  intro outer parameters rest
  have opened : (settled group outer parameters).openClause keyword =
      settled group.boundary outer parameters := by
    unfold openClause
    split <;> rfl
  apply run_cons_of_ok
  rw [← opened]
  simp only [List.mem_cons, List.not_mem_nil, or_false] at opens
  rcases opens with rfl | rfl | rfl | rfl <;> rfl

end Resolver

end BindStream
