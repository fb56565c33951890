import BindStream.Proofs.Expression.Reading

namespace BindStream

/-! What an operand leaves behind: its column as the nearest one. -/

namespace Group

/-- The group has just shown a column. -/
structure Names (column : String) (before after : Group) : Prop where
  kind : after.kind = before.kind
  betweenPending : after.betweenPending = before.betweenPending
  nearest : after.nearest = some column
  tuple : after.tuple = none

/-- The group has shown a column in its current item, and no other on the way. -/
structure NamesOnce (column : String) (before after : Group) : Prop
    extends Names column before after where
  firstColumn : after.firstColumn = before.firstColumn.or (some column)
  item : after.item = before.item

/-- The group has shown columns in its current item, from `first` to `last`. -/
structure NamesFrom (first last : String) (before after : Group) : Prop
    extends Names last before after where
  firstColumn : after.firstColumn = before.firstColumn.or (some first)
  item : after.item = before.item

theorem namesOnce_push (group : Group) (column : String) :
    NamesOnce column group (group.push column) := ⟨⟨rfl, rfl, rfl, rfl⟩, rfl, rfl⟩

theorem NamesOnce.namesFrom {column : String} {before after : Group}
    (names : NamesOnce column before after) : NamesFrom column column before after :=
  ⟨names.toNames, names.firstColumn, names.item⟩

theorem NamesFrom.push {column first last : String} {before after : Group}
    (names : NamesFrom first last (before.push column) after) :
    NamesFrom column last before after where
  kind := names.kind
  betweenPending := names.betweenPending
  nearest := names.nearest
  tuple := names.tuple
  firstColumn := by
    rw [names.firstColumn, Group.push]
    cases before.firstColumn <;> rfl
  item := names.item

/-- Behind a call, the first column among its arguments is left as if it had been named itself. -/
theorem absorb_call {column : String} {inner : Group} (group : Group)
    (called : inner.kind = .call) (shown : inner.firstColumn = some column) :
    group.absorb inner = group.push column := by
  have single : ¬(0 < inner.item ∧ inner.kind ≠ .call) := fun several => several.2 called
  rw [absorb_eq, shown, if_neg single]
  rfl

theorem NamesFrom.absorb {first last : String} {inner : Group} (group : Group)
    (names : NamesFrom first last (.start .call default) inner) :
    NamesOnce first group (group.absorb inner) := by
  rw [absorb_call group names.kind names.firstColumn]
  exact group.namesOnce_push first

end Group

namespace Resolver

variable {parameters : List Parameter} {rest : List Token}

/-- A call of which the arguments have been read. -/
theorem run_call {group inner : Group} {outer : List Group} {found : List Parameter}
    {arguments : List Lexeme} (function : Name)
    (ran : (settled (.start .call default) (group :: outer) parameters).run
        (arguments.map Lexeme.token ++ Lexeme.closing.token :: rest) =
      (settled inner (group :: outer) found).run (Lexeme.closing.token :: rest)) :
    (settled group outer parameters).run
        ((function.lexeme :: .opening :: (arguments ++ [.closing])).map Lexeme.token ++ rest) =
      (settled (group.absorb inner) outer found).run rest :=
  run_reading_call function insertKind?_settled (.inl rfl) ran

/-- Calls around a name show it as if it stood alone. -/
theorem reads_nest {insert : Option InsertHead} {group : Group} {outer : List Group}
    (nest : Nest) (noRow : (reading insert group outer []).insertKind? = none) :
    Reads insert outer (· = group) nest.lexemes [] (· = group.push nest.column) := by
  induction nest generalizing group outer with
  | name inner =>
      rintro group parameters rest rfl ends
      refine ⟨_, [], ?_, rfl, rfl⟩
      rw [List.append_nil]
      exact run_name inner ends
  | call function argument ih =>
      rintro group parameters rest rfl -
      have inside : Reads insert (group :: outer) (· = .start .call default) argument.lexemes []
          (· = Group.push (.start .call default) argument.column) := ih rfl
      obtain ⟨inner, found, ran, unbound, rfl⟩ :=
        inside _ parameters (Lexeme.closing.token :: rest) rfl rfl
      have noList : (Group.push (.start .call default) argument.column).kind ≠ .columnList := by
        rintro ⟨⟩
      refine ⟨_, found, run_reading_call function noRow (.inr noList) ran, unbound, ?_⟩
      exact Group.absorb_call _ rfl rfl

/-- The group of a list in parentheses that has shown some columns, one an item. -/
structure Listing (kind : GroupKind) (shown : List Nest) (group : Group) : Prop where
  kind : group.kind = kind
  items : group.items = shown.map fun nest => some nest.column

theorem reads_listed {insert : Option InsertHead} {kind : GroupKind} {parent : Group}
    {outer : List Group} (nests : List Nest) (nonempty : nests ≠ []) :
    Reads insert (parent :: outer) (· = .start kind default)
      (commaSeparated (nests.map Nest.lexemes)) []
      fun left => left.kind = kind ∧ left.item + 1 = nests.length ∧
        left.columns = nests.map fun nest => some nest.column := by
  have listed : Reads insert (parent :: outer) (fun group => group.item = 0 ∧ Listing kind [] group)
      (commaSeparated (nests.map Nest.lexemes)) (nests.flatMap fun _ => [])
      (fun group => group.item + 1 = nests.length ∧ Listing kind nests group) := by
    refine .commaSeparated (fun done group => group.item = done.length ∧ Listing kind done group)
      (fun done group => group.item + 1 = done.length ∧ Listing kind done group)
      (fun done nest later _ => .of_forall ?_) ?_ nonempty
    · rintro group ⟨item, listing⟩
      refine (reads_nest nest rfl).weaken ?_
      rintro left rfl
      have place : group.item = group.items.length := by
        rw [item, listing.items, List.length_map]
      refine ⟨?_, listing.kind, ?_⟩
      · rw [List.length_append]
        exact congrArg (· + 1) item
      · change group.items.fill group.item nest.column = _
        rw [place, Columns.fill_length, listing.items, List.map_append]
        rfl
    · rintro done group ⟨item, listing⟩
      exact ⟨item, listing.kind, listing.items⟩
  rintro group parameters rest rfl ends
  obtain ⟨left, found, ran, bound, item, listing⟩ :=
    listed (.start kind default) parameters rest ⟨rfl, rfl, rfl⟩ ends
  have unbound : (nests.flatMap fun _ => ([] : List String)) = [] :=
    List.flatMap_eq_nil_iff.mpr fun _ _ => rfl
  refine ⟨left, found, ran, bound.trans unbound, listing.kind, item, ?_⟩
  rw [Group.columns, listing.items, item, List.length_map, Nat.sub_self]
  exact List.append_nil _

theorem run_nest (nest : Nest) (group : Group) (outer : List Group)
    (ends : opensGroup rest = false) :
    ∃ after, (settled group outer parameters).run (nest.lexemes.map Lexeme.token ++ rest) =
        (settled after outer parameters).run rest ∧
      Group.NamesOnce nest.column group after := by
  obtain ⟨left, found, ran, unbound, rfl⟩ :=
    reads_nest nest insertKind?_settled group parameters rest rfl ends
  rw [List.map_eq_nil_iff.mp unbound, List.append_nil] at ran
  exact ⟨_, ran, group.namesOnce_push nest.column⟩

theorem run_qualified (qualifiers : List Name) (name : Name) (group : Group)
    (outer : List Group) (ends : opensGroup rest = false) :
    ∃ after,
      (settled group outer parameters).run
          ((Operand.qualified qualifiers name).lexemes.map Lexeme.token ++ rest) =
        (settled after outer parameters).run rest ∧
      Group.NamesFrom (qualifiers.headD name).column name.column group after := by
  induction qualifiers generalizing group with
  | nil => exact ⟨_, run_name name ends, (group.namesOnce_push name.column).namesFrom⟩
  | cons qualifier qualifiers ih =>
      obtain ⟨after, ran, names⟩ := ih (group.push qualifier.column)
      refine ⟨after, ?_, names.push⟩
      rw [← ran]
      exact (run_name qualifier rfl).trans (run_operator .dot)

theorem run_operand (operand : Operand) (group : Group) (outer : List Group)
    (ends : opensGroup rest = false) :
    ∃ after,
      (settled group outer parameters).run (operand.lexemes.map Lexeme.token ++ rest) =
        (settled after outer parameters).run rest ∧
      Group.Names operand.column group after := by
  cases operand with
  | qualified qualifiers name =>
      obtain ⟨after, ran, names⟩ := run_qualified qualifiers name group outer ends
      exact ⟨after, ran, names.toNames⟩
  | nest calls =>
      obtain ⟨after, ran, names⟩ := run_nest calls group outer ends
      exact ⟨after, ran, names.toNames⟩

end Resolver

end BindStream
