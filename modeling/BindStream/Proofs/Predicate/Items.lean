import BindStream.Proofs.Predicate.Binds

namespace BindStream

/-! Markers in the parentheses of `IN` and of a call see the column before the parentheses. -/

/-- What may stand in the parentheses of `IN` and of a call. -/
def Lexeme.IsItem (lexeme : Lexeme) : Prop :=
  lexeme = .marker ∨ lexeme = .comma ∨ ∃ literal : Literal, lexeme = literal.lexeme

/-- A group that shows nothing of its own and lets a marker look outside. -/
structure Group.Transparent (group : Group) : Prop where
  kind : group.kind = .nested ∨ group.kind = .call
  nearest : group.nearest = none
  bounded : group.bounded = false
  firstColumn : group.firstColumn = none

theorem Group.Transparent.nextItem {group : Group} (transparent : group.Transparent) :
    group.nextItem.Transparent :=
  ⟨transparent.kind, rfl, transparent.bounded, transparent.firstColumn⟩

theorem columnIn_of_transparent {group : Group} {outer : List Group}
    (transparent : group.Transparent) (insertColumns : Columns) :
    columnIn insertColumns (group :: outer) = columnIn insertColumns outer := by
  have byName : group.positional insertColumns = none := by
    unfold Group.positional
    rcases transparent.kind with kind | kind <;> simp only [kind, ite_self]
  rw [columnIn, byName, transparent.nearest, transparent.bounded]
  rfl

namespace Resolver

variable {group parent : Group} {outer : List Group} {parameters : List Parameter}
variable {column : String} {rest : List Token} {items : List Lexeme}

theorem column?_of_transparent (transparent : group.Transparent) (plain : parent.Plain)
    (nearest : parent.nearest = some column) :
    (settled group (parent :: outer) parameters).column? = some column := by
  change columnIn [] (group :: parent :: outer) = _
  rw [columnIn_of_transparent transparent, columnIn, plain.positional, nearest]

theorem run_items (all : ∀ item ∈ items, item.IsItem) (plain : parent.Plain)
    (nearest : parent.nearest = some column) (group : Group)
    (transparent : group.Transparent) (parameters : List Parameter) :
    ∃ (after : Group) (found : List Parameter),
      (settled group (parent :: outer) parameters).run (items.map Lexeme.token ++ rest) =
        (settled after (parent :: outer) (parameters ++ found)).run rest ∧
      after.Transparent ∧
      found.map Parameter.column = List.replicate (items.countP Lexeme.isMarker) column := by
  induction items generalizing group parameters with
  | nil =>
      refine ⟨group, [], ?_, transparent, rfl⟩
      rw [List.append_nil]
      rfl
  | cons item items ih =>
      have later : ∀ other ∈ items, other.IsItem := fun other member =>
        all other (List.mem_cons_of_mem item member)
      rcases all item List.mem_cons_self with rfl | rfl | ⟨literal, rfl⟩
      · obtain ⟨after, found, ran, kept, columns⟩ :=
          ih later group transparent (parameters ++ [bound parameters column])
        refine ⟨after, bound parameters column :: found, ?_, kept, ?_⟩
        · rw [List.append_cons, ← ran]
          exact run_marker (column?_of_transparent transparent plain nearest)
        · rw [List.countP_cons_of_pos rfl, List.replicate_succ, List.map_cons, columns]
          rfl
      · obtain ⟨after, found, ran, kept, columns⟩ :=
          ih later _ transparent.nextItem parameters
        refine ⟨after, found, run_comma.trans ran, kept, ?_⟩
        rw [columns, List.countP_cons_of_neg (by decide)]
      · obtain ⟨after, found, ran, kept, columns⟩ := ih later group transparent parameters
        refine ⟨after, found, (run_literal literal).trans ran, kept, ?_⟩
        rw [columns, List.countP_cons_of_neg (by simp)]

theorem run_enclosed (all : ∀ item ∈ items, item.IsItem) (plain : parent.Plain)
    (nearest : parent.nearest = some column) (transparent : group.Transparent) :
    ∃ (after : Group) (found : List Parameter),
      (settled group (parent :: outer) parameters).run
          ((items ++ [Lexeme.closing]).map Lexeme.token ++ rest) =
        (settled after outer (parameters ++ found)).run rest ∧
      found.map Parameter.column = List.replicate (items.countP Lexeme.isMarker) column ∧
      after.kind = parent.kind ∧ after.betweenPending = parent.betweenPending := by
  obtain ⟨inner, found, ran, -, columns⟩ :=
    run_items all plain nearest group transparent parameters
  refine ⟨parent.absorb inner, found, ?_, columns, ?_, ?_⟩
  · rw [List.map_append, List.append_assoc, ran]
    exact run_closing rfl (.inl rfl)
  · rw [Group.absorb_eq]
  · rw [Group.absorb_eq]

theorem isItem_of_mem_commaSeparated {parts : List (List Lexeme)}
    (all : ∀ part ∈ parts, ∀ item ∈ part, item.IsItem) :
    ∀ item ∈ commaSeparated parts, item.IsItem := by
  intro item member
  rcases mem_commaSeparated member with same | ⟨part, listed, inside⟩
  · exact .inr (.inl same)
  · exact all part listed item inside

theorem isItem_argument (argument : Argument) : argument.lexeme.IsItem := by
  cases argument with
  | marker => exact .inl rfl
  | literal value => exact .inr (.inr ⟨value, rfl⟩)

theorem innerKind_of_plain (plain : group.Plain) (noTuple : group.tuple = none) :
    innerKind group = .nested := by
  unfold innerKind
  rcases plain with kind | kind <;> rw [kind, noTuple]

end Resolver

end BindStream
