import BindStream.Proofs.Group
import BindStream.Resolver

namespace BindStream

/-! Stacks of groups that differ in what lies below one of them, and in the row that it passes
on. -/

/-- The columns of the tuple that a group's items are compared with. -/
def GroupKind.row? : GroupKind → Option Columns
  | rowTuple columns => some columns
  | _ => none

def GroupKind.IsInner : GroupKind → Prop
  | nested => True
  | call => True
  | rowTuple _ => True
  | _ => False

def Group.recast (kind : GroupKind) (opened : Span) (group : Group) : Group :=
  { group with kind := kind, opened := opened }

theorem Group.absorb_recast (group inner : Group) {kind : GroupKind} {opened : Span}
    (notCall : kind ≠ .call) (notCallAlone : inner.kind ≠ .call) :
    group.absorb (inner.recast kind opened) = group.absorb inner := by
  have sameChoice : (0 < inner.item ∧ kind ≠ .call) ↔ (0 < inner.item ∧ inner.kind ≠ .call) :=
    ⟨fun several => ⟨several.1, notCallAlone⟩, fun several => ⟨several.1, notCall⟩⟩
  unfold absorb
  simp only [recast, sameChoice]
  rfl

/-- A change of a group that its kind and place have no part in and that keeps a boundary. -/
structure Group.Uniform (f : Group → Group) : Prop where
  commutes : ∀ (group : Group) (kind : GroupKind) (opened : Span),
    f (group.recast kind opened) = (f group).recast kind opened
  bounded : ∀ group : Group, group.bounded = true → (f group).bounded = true

namespace Group.Uniform

theorem kind {f : Group → Group} (uniform : Uniform f) (group : Group) :
    (f group).kind = group.kind := by
  have same : f group = (f group).recast group.kind group.opened :=
    uniform.commutes group group.kind group.opened
  calc
    (f group).kind = ((f group).recast group.kind group.opened).kind :=
      congrArg Group.kind same
    _ = group.kind := rfl

theorem push (column : String) : Uniform fun group => group.push column :=
  ⟨fun _ _ _ => rfl, fun _ bounded => bounded⟩

theorem boundary : Uniform Group.boundary := ⟨fun _ _ _ => rfl, fun _ _ => rfl⟩

theorem nextItem : Uniform Group.nextItem := ⟨fun _ _ _ => rfl, fun _ bounded => bounded⟩

theorem betweenPending : Uniform fun group => { group with betweenPending := true } :=
  ⟨fun _ _ _ => rfl, fun _ bounded => bounded⟩

theorem dropTuple : Uniform fun group => { group with tuple := none } :=
  ⟨fun _ _ _ => rfl, fun _ bounded => bounded⟩

theorem id : Uniform fun group => group := ⟨fun _ _ _ => rfl, fun _ bounded => bounded⟩

theorem conjunction : Uniform Group.conjunction where
  commutes group kind opened := by
    cases pending : group.betweenPending with
    | true =>
        rw [conjunction_of_pending group pending,
          conjunction_of_pending (group.recast kind opened) pending]
        rfl
    | false =>
        rw [conjunction_of_not_pending group pending,
          conjunction_of_not_pending (group.recast kind opened) pending]
        rfl
  bounded group bounded := by
    unfold Group.conjunction
    split
    · exact bounded
    · rfl

theorem absorb (inner : Group) : Uniform fun group => group.absorb inner where
  commutes group kind opened := by
    rw [absorb_eq, absorb_eq]
    rfl
  bounded group bounded := by
    rw [absorb_eq]
    exact bounded

end Group.Uniform

/-- Whether all groups above the bottom one opened outside the arguments of functions, so that a
row at the bottom would be passed on to each of them. -/
def inherits : List Group → Bool
  | [] => false
  | group :: outer => outer.isEmpty || (group.kind != .call && inherits outer)

/-- Whether a marker in the innermost of some groups would bind by position if the bottom one were
a row. -/
def exposed : List Group → Bool
  | [] => false
  | group :: outer =>
    !group.bounded &&
      (inherits (group :: outer) ||
        (group.positional [] == none && group.nearest == none && exposed outer))

/-- The column that a row at the bottom would give to a marker in the innermost of some groups
by its position. -/
def columnOfRow (columns : Columns) : List Group → Option String
  | [] => none
  | group :: outer =>
    if inherits (group :: outer) then columns[group.item]?.join else columnOfRow columns outer

/-- Two stacks of groups that are the same up to the group at the bottom of the second, but for
the row that the first may pass on from there. At the bottom they may differ in kind and place,
and a boundary lies in both. Below it the first stack goes on with `context`. -/
inductive SameAbove (context : List Group) (row? : Option Columns) :
    Nat → List Group → List Group → Prop
  | base {group : Group} {kind : GroupKind} {opened : Span}
      (bounded : group.bounded = true) (row : group.kind.row? = row?)
      (noRowAlone : kind.row? = none) :
      SameAbove context row? 0 (group :: context) [group.recast kind opened]
  | inner {depth : Nat} {group : Group} {inside alone : List Group}
      (isInner : group.kind.IsInner)
      (apart : row? = none ∨ inherits (group :: alone) = false)
      (same : SameAbove context row? depth inside alone) :
      SameAbove context row? (depth + 1) (group :: inside) (group :: alone)
  | heir {depth : Nat} {group : Group} {columns : Columns} {opened : Span}
      {inside alone : List Group} (row : row? = some columns) (isInner : group.kind.IsInner)
      (heirs : inherits (group :: alone) = true)
      (same : SameAbove context row? depth inside alone) :
      SameAbove context row? (depth + 1)
        (group.recast (.rowTuple columns) opened :: inside) (group :: alone)

namespace SameAbove

variable {context inside alone : List Group} {row? : Option Columns} {depth : Nat}
variable {first second : Group}

theorem columnIn_of_bounded (group : Group) {outer : List Group} {insertColumns : Columns}
    (bounded : group.bounded = true) :
    BindStream.columnIn insertColumns (group :: outer) = group.nearest := by
  have byName : group.positional insertColumns = none := if_pos bounded
  rw [BindStream.columnIn, byName]
  cases group.nearest with
  | none => exact if_pos bounded
  | some column => rfl

theorem innerKind_of_noRow {group : Group} (noRow : group.kind.row? = none) :
    Resolver.innerKind group =
      match group.tuple with
      | some columns => .rowTuple columns
      | none => .nested := by
  unfold Resolver.innerKind
  cases kind : group.kind with
  | rowTuple columns => simp [kind, GroupKind.row?] at noRow
  | _ => cases group.tuple <;> rfl

theorem innerKind_of_row {group : Group} {columns : Columns}
    (row : group.kind.row? = some columns) :
    Resolver.innerKind group = .rowTuple columns := by
  unfold Resolver.innerKind
  cases kind : group.kind with
  | rowTuple shown =>
      rw [kind] at row
      cases row
      rfl
  | _ => simp [kind, GroupKind.row?] at row

theorem inherits_cons_cons (group parent : Group) (outer : List Group) :
    inherits (group :: parent :: outer) =
      (group.kind != .call && inherits (parent :: outer)) := rfl

theorem inherits_map_head {f : Group → Group} (uniform : Group.Uniform f) (group : Group)
    (outer : List Group) :
    inherits (f group :: outer) = inherits (group :: outer) := by
  rw [inherits, inherits, uniform.kind]

theorem positional_of_isInner {group : Group} (isInner : group.kind.IsInner)
    (insertColumns : Columns) :
    group.positional insertColumns = group.positional [] := by
  unfold Group.positional
  cases kind : group.kind <;> simp_all [GroupKind.IsInner]

theorem of_not_exposed {group : Group} {outer : List Group}
    (hidden : exposed (group :: outer) = false) (unbounded : group.bounded = false) :
    inherits (group :: outer) = false ∧
      (group.positional [] = none → group.nearest = none → exposed outer = false) := by
  rw [exposed, unbounded, Bool.not_false, Bool.true_and, Bool.or_eq_false_iff] at hidden
  refine ⟨hidden.1, fun byPlace byName => ?_⟩
  have outside := hidden.2
  rw [byPlace, byName] at outside
  exact outside

theorem columnIn (same : SameAbove context row? depth inside alone) (insertColumns : Columns)
    (clear : row? = none ∨ exposed alone = false) :
    BindStream.columnIn insertColumns inside = BindStream.columnIn [] alone := by
  induction same with
  | @base group kind opened bounded row noRowAlone =>
      rw [columnIn_of_bounded group bounded,
        columnIn_of_bounded (group.recast kind opened) bounded]
      rfl
  | @inner depth group inside alone isInner apart same ih =>
      cases bounded : group.bounded with
      | true => rw [columnIn_of_bounded group bounded, columnIn_of_bounded group bounded]
      | false =>
          rw [BindStream.columnIn, BindStream.columnIn,
            positional_of_isInner isInner insertColumns]
          cases byPlace : group.positional [] with
          | some columns => rfl
          | none =>
              cases byName : group.nearest with
              | some column => rfl
              | none =>
                  dsimp only
                  rw [ih (clear.imp_right fun hidden =>
                    (of_not_exposed hidden bounded).2 byPlace byName)]
  | @heir depth group columns opened inside alone row isInner heirs same ih =>
      have hidden : exposed (group :: alone) = false :=
        clear.resolve_left (by rw [row]; exact Option.some_ne_none columns)
      cases bounded : group.bounded with
      | true =>
          rw [columnIn_of_bounded group bounded, columnIn_of_bounded _ (by exact bounded)]
          rfl
      | false =>
          rw [(of_not_exposed hidden bounded).1] at heirs
          cases heirs

theorem of_exposed {group : Group} {outer : List Group}
    (shown : exposed (group :: outer) = true) :
    group.bounded = false ∧ (inherits (group :: outer) = false →
      group.positional [] = none ∧ group.nearest = none ∧ exposed outer = true) := by
  rw [exposed, Bool.and_eq_true_iff, Bool.not_eq_true'] at shown
  refine ⟨shown.1, fun apart => ?_⟩
  have outside := shown.2
  rw [apart, Bool.false_or, Bool.and_eq_true_iff, Bool.and_eq_true_iff, beq_iff_eq,
    beq_iff_eq] at outside
  exact ⟨outside.1.1, outside.1.2, outside.2⟩

theorem columnIn_of_exposed {columns : Columns}
    (same : SameAbove context row? depth inside alone) (row : row? = some columns)
    (insertColumns : Columns) (shown : exposed alone = true) :
    BindStream.columnIn insertColumns inside = columnOfRow columns alone := by
  induction same with
  | @base group kind opened bounded _ noRowAlone =>
      have unbounded : group.bounded = false := (of_exposed shown).1
      rw [bounded] at unbounded
      cases unbounded
  | @inner depth group inside alone isInner apart same ih =>
      have apart : inherits (group :: alone) = false :=
        apart.resolve_left (by rw [row]; exact Option.some_ne_none columns)
      obtain ⟨unbounded, outside⟩ := of_exposed shown
      obtain ⟨byPlace, byName, shownOutside⟩ := outside apart
      rw [BindStream.columnIn, positional_of_isInner isInner insertColumns, byPlace, byName,
        columnOfRow, apart]
      simp only [unbounded, Bool.false_eq_true, if_false]
      exact ih shownOutside
  | @heir depth group passed opened inside alone passes isInner heirs same ih =>
      cases passes.symm.trans row
      have unbounded : group.bounded = false := (of_exposed shown).1
      have byPlace : (group.recast (.rowTuple columns) opened).positional insertColumns =
          some columns := if_neg (by rw [Group.recast, unbounded]; exact Bool.false_ne_true)
      rw [BindStream.columnIn, byPlace, columnOfRow, heirs]
      rfl

theorem map_head {f : Group → Group} (uniform : Group.Uniform f)
    (same : SameAbove context row? depth (first :: inside) (second :: alone)) :
    SameAbove context row? depth (f first :: inside) (f second :: alone) := by
  cases same with
  | base bounded row noRowAlone =>
      rw [uniform.commutes]
      refine .base (uniform.bounded _ bounded) ?_ noRowAlone
      rw [uniform.kind]
      exact row
  | inner isInner apart same =>
      refine .inner ?_ ?_ same
      · rw [uniform.kind]
        exact isInner
      · rw [inherits_map_head uniform]
        exact apart
  | heir row isInner heirs same =>
      rw [uniform.commutes]
      refine .heir row ?_ ?_ same
      · rw [uniform.kind]
        exact isInner
      · rw [inherits_map_head uniform]
        exact heirs

/-- A row is passed on to the groups that inherit it; all other groups open alike. -/
theorem innerKind (same : SameAbove context row? depth (first :: inside) (second :: alone)) :
    (Resolver.innerKind first = Resolver.innerKind second ∧
        (row? = none ∨ inherits (second :: alone) = false)) ∨
      ∃ columns, row? = some columns ∧ Resolver.innerKind first = .rowTuple columns ∧
        inherits (second :: alone) = true := by
  cases same with
  | @base group kind opened bounded row noRowAlone =>
      -- The boundary hides the row from markers, but not from the groups that open here.
      cases passed : row? with
      | none =>
          refine .inl ⟨?_, .inl rfl⟩
          rw [innerKind_of_noRow (row.trans passed), innerKind_of_noRow (by exact noRowAlone)]
          rfl
      | some columns =>
          exact .inr ⟨columns, rfl, innerKind_of_row (row.trans passed), rfl⟩
  | inner isInner apart same => exact .inl ⟨rfl, apart⟩
  | @heir _ group columns opened _ _ row isInner heirs same =>
      exact .inr ⟨columns, row, innerKind_of_row rfl, heirs⟩

theorem exists_cons (same : SameAbove context row? depth inside alone) :
    (∃ group outer, inside = group :: outer) ∧ ∃ group outer, alone = group :: outer := by
  cases same <;> exact ⟨⟨_, _, rfl⟩, _, _, rfl⟩

theorem absorb
    (same : SameAbove context row? (depth + 1) (first :: inside) (second :: alone)) :
    ∃ parent outer parentAlone outerAlone, inside = parent :: outer ∧
      alone = parentAlone :: outerAlone ∧
      SameAbove context row? depth (parent.absorb first :: outer)
        (parentAlone.absorb second :: outerAlone) := by
  cases same with
  | inner isInner apart same =>
      obtain ⟨⟨parent, outer, rfl⟩, parentAlone, outerAlone, rfl⟩ := same.exists_cons
      exact ⟨parent, outer, parentAlone, outerAlone, rfl, rfl, same.map_head (.absorb first)⟩
  | @heir _ _ columns opened _ _ row isInner heirs same =>
      obtain ⟨⟨parent, outer, rfl⟩, parentAlone, outerAlone, rfl⟩ := same.exists_cons
      refine ⟨parent, outer, parentAlone, outerAlone, rfl, rfl, ?_⟩
      have notCall : second.kind ≠ .call := bne_iff_ne.mp (Bool.and_eq_true_iff.mp heirs).1
      have sameItems : parent.absorb (second.recast (.rowTuple columns) opened) =
          parent.absorb second :=
        Group.absorb_recast parent second (by simp) notCall
      rw [sameItems]
      exact same.map_head (.absorb second)

end SameAbove

end BindStream
