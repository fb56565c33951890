import BindStream.Proofs.Resolver.Columns
import BindStream.Proofs.Resolver.SameAbove
import BindStream.Proofs.Token.Depth

namespace BindStream

/-! The tokens between two parentheses, beside the same tokens as a statement of their own. -/

namespace Resolver

/-- A row leaves a marker its column: the marker is not exposed to the row, or finds the same
column there. -/
def Undisturbed (row? : Option Columns) (resolver : Resolver) : Prop :=
  ∀ columns ∈ row?, exposed resolver.groups = true →
    columnOfRow columns resolver.groups = resolver.column?

/-- A row leaves all markers among some tokens their columns, up to the first one without any. -/
def Clear (row? : Option Columns) (resolver : Resolver) : List Token → Prop
  | [] => True
  | token :: tokens =>
    (token.isMarker = true → resolver.Undisturbed row?) ∧
      ∀ next, resolver.accept token (opensGroup tokens) = .ok next → next.Clear row? tokens

theorem clear_none (resolver : Resolver) (tokens : List Token) : resolver.Clear none tokens := by
  induction tokens generalizing resolver with
  | nil => trivial
  | cons token tokens ih =>
      exact ⟨fun _ columns row => absurd row (Option.not_mem_none columns), fun next _ => ih next⟩

/-- A resolver between some parentheses goes along with one that sees only what is between
them. -/
structure Alongside (context : List Group) (row? : Option Columns) (depth : Nat)
    (inside alone : Resolver) : Prop where
  enclosed : context ≠ []
  groups : SameAbove context row? depth inside.groups alone.groups
  calls : inside.callPending = alone.callPending
  noInsert : alone.insert = none

namespace Alongside

variable {context : List Group} {row? : Option Columns} {depth last : Nat}
variable {inside alone : Resolver} {token : Token} {callFollows : Bool}
variable {rest tokens : List Token}

theorem not_atRoot (along : Alongside context row? depth inside alone) :
    inside.atRoot = false := by
  obtain ⟨current, outer, _, _, _⟩ := inside
  obtain ⟨currentAlone, outerAlone, _, _, _⟩ := alone
  have groups := along.groups
  simp only [Resolver.groups] at groups
  cases groups with
  | base => exact List.isEmpty_eq_false_iff.mpr along.enclosed
  | inner isInner apart same => cases same <;> rfl
  | heir row isInner heirs same => cases same <;> rfl

theorem atRoot_alone (along : Alongside context row? 0 inside alone) :
    alone.atRoot = true := by
  obtain ⟨current, outer, _, _, _⟩ := inside
  obtain ⟨currentAlone, outerAlone, _, _, _⟩ := alone
  have groups := along.groups
  simp only [Resolver.groups] at groups
  cases groups
  rfl

theorem column?_eq_iff (along : Alongside context row? depth inside alone) :
    inside.column? = alone.column? ↔ alone.Undisturbed row? := by
  have noColumns : alone.insertColumns = [] := by
    rw [insertColumns, along.noInsert]
    rfl
  have hidden (clear : row? = none ∨ exposed alone.groups = false) :
      inside.column? = alone.column? := by
    rw [Resolver.column?, Resolver.column?, noColumns]
    exact along.groups.columnIn _ clear
  constructor
  · intro same columns row shown
    rw [← same, Resolver.column?, along.groups.columnIn_of_exposed row _ shown]
  · intro undisturbed
    cases row : row? with
    | none => exact hidden (.inl row)
    | some columns =>
        cases shown : exposed alone.groups with
        | false => exact hidden (.inr shown)
        | true =>
            rw [← undisturbed columns row shown, Resolver.column?,
              along.groups.columnIn_of_exposed row _ shown]

theorem mapCurrent {f : Group → Group} (uniform : Group.Uniform f)
    (along : Alongside context row? depth inside alone) :
    Alongside context row? depth (inside.mapCurrent f) (alone.mapCurrent f) where
  enclosed := along.enclosed
  groups := along.groups.map_head uniform
  calls := along.calls
  noInsert := along.noInsert

theorem name (along : Alongside context row? depth inside alone) :
    Alongside context row? depth (inside.name token callFollows)
      (alone.name token callFollows) := by
  cases callFollows with
  | true => exact { along with calls := rfl }
  | false =>
      unfold Resolver.name
      cases token.columnName with
      | none => exact along
      | some column => exact along.mapCurrent (.push column)

theorem openClause (along : Alongside context row? depth inside alone) (keyword : Keyword) :
    Alongside context row? depth (inside.openClause keyword) (alone.openClause keyword) := by
  have bounded := along.mapCurrent .boundary
  unfold Resolver.openClause
  rw [along.not_atRoot]
  cases alone.atRoot with
  | false => exact bounded
  | true =>
      refine { bounded with noInsert := ?_ }
      simp only [if_true, along.noInsert, Option.map_none]

theorem keyword (along : Alongside context row? depth inside alone) {keyword : Keyword}
    (other : keyword ≠ .INSERT) :
    Alongside context row? depth (inside.keyword keyword) (alone.keyword keyword) := by
  unfold Resolver.keyword
  split
  · exact along.mapCurrent .conjunction
  · exact along.mapCurrent .boundary
  · exact along.mapCurrent .betweenPending
  · contradiction
  · split
    · exact along.openClause keyword
    · exact along

theorem endStatement (along : Alongside context row? depth inside alone) :
    Alongside context row? depth inside.endStatement alone.endStatement := by
  have bounded := along.mapCurrent .boundary
  unfold Resolver.endStatement
  rw [along.not_atRoot]
  cases alone.atRoot with
  | false => exact bounded
  | true => exact { bounded with noInsert := rfl }

theorem enter {kind : GroupKind} (isInner : kind.IsInner) {f : Group → Group}
    (uniform : Group.Uniform f)
    (apart : row? = none ∨ kind = .call ∨ inherits alone.groups = false)
    (along : Alongside context row? depth inside alone) (span : Span) :
    Alongside context row? (depth + 1) (inside.enter (f inside.current) kind span)
      (alone.enter (f alone.current) kind span) where
  enclosed := along.enclosed
  groups := by
    refine .inner isInner (apart.imp_right fun apart => ?_) (along.groups.map_head uniform)
    have below : inherits (f alone.current :: alone.outer) = inherits alone.groups :=
      SameAbove.inherits_map_head uniform alone.current alone.outer
    change inherits (.start kind span :: f alone.current :: alone.outer) = false
    rw [SameAbove.inherits_cons_cons, below, Bool.and_eq_false_iff]
    exact apart.imp_left fun call => by rw [call]; rfl
  calls := rfl
  noInsert := along.noInsert

theorem isInner_innerKind (group : Group) :
    (innerKind group).IsInner ∧ innerKind group ≠ .call := by
  unfold innerKind
  split <;> exact ⟨trivial, by simp⟩

theorem enterHeir {columns : Columns} (row : row? = some columns)
    (heirs : inherits alone.groups = true)
    (along : Alongside context row? depth inside alone) (span : Span) :
    Alongside context row? (depth + 1)
      (inside.enter { inside.current with tuple := none } (.rowTuple columns) span)
      (alone.enter { alone.current with tuple := none } (innerKind alone.current) span) where
  enclosed := along.enclosed
  groups := by
    obtain ⟨isInner, notCall⟩ := isInner_innerKind alone.current
    have below : inherits ({ alone.current with tuple := none } :: alone.outer) = true :=
      (SameAbove.inherits_map_head .dropTuple alone.current alone.outer).trans heirs
    have kept : inherits (.start (innerKind alone.current) span ::
        { alone.current with tuple := none } :: alone.outer) = true := by
      rw [SameAbove.inherits_cons_cons, below, Bool.and_true]
      exact bne_iff_ne.mpr notCall
    exact .heir row isInner kept (along.groups.map_head .dropTuple)
  calls := rfl
  noInsert := along.noInsert

theorem openGroup (along : Alongside context row? depth inside alone) (span : Span) :
    Alongside context row? (depth + 1) (inside.openGroup span) (alone.openGroup span) := by
  have notTop : inside.insertKind? = none := by
    unfold insertKind?
    rw [along.not_atRoot]
    rfl
  have notInsert : alone.insertKind? = none := by
    unfold insertKind?
    rw [along.noInsert]
    exact ite_self none
  unfold Resolver.openGroup
  rw [notTop, notInsert]
  dsimp only
  rw [along.calls]
  split
  · have isInner : GroupKind.call.IsInner := trivial
    exact along.enter isInner .id (.inr (.inl rfl)) span
  · rcases along.groups.innerKind with ⟨sameKind, apart⟩ | ⟨columns, row, passed, heirs⟩
    · rw [sameKind]
      exact along.enter (isInner_innerKind _).1 .dropTuple (apart.imp_right .inr) span
    · rw [passed]
      exact along.enterHeir row heirs span

theorem closeGroup (along : Alongside context row? (depth + 1) inside alone) (span : Span) :
    ∃ inside' alone', inside.closeGroup span = .ok inside' ∧
      alone.closeGroup span = .ok alone' ∧
      Alongside context row? depth inside' alone' := by
  obtain ⟨current, outer, insert, callPending, parameters⟩ := inside
  obtain ⟨currentAlone, outerAlone, insertAlone, callPendingAlone, parametersAlone⟩ := alone
  have noInsert : insertAlone = none := along.noInsert
  obtain ⟨parent, below, parentAlone, belowAlone, rfl, rfl, groups⟩ := along.groups.absorb
  refine ⟨_, _, rfl, rfl, along.enclosed, groups, along.calls, ?_⟩
  simp only [noInsert, Option.map_none, ite_self]

theorem accept {next : Nat} (along : Alongside context row? depth inside alone)
    (callFollows : Bool) (other : token.kind ≠ .keyword .INSERT)
    (stepped : token.depthFrom depth = some next)
    (same : token.isMarker = true → inside.column? = alone.column?) :
    (∃ inside' alone', inside.accept token callFollows = .ok inside' ∧
      alone.accept token callFollows = .ok alone' ∧
      Alongside context row? next inside' alone') ∨
    (inside.accept token callFollows =
        .error (.unresolvedMarker inside.parameters.length token.span) ∧
      alone.accept token callFollows =
        .error (.unresolvedMarker alone.parameters.length token.span)) := by
  obtain ⟨kind, text, span⟩ := token
  cases kind with
  | identifier | quotedIdentifier =>
      cases stepped
      exact .inl ⟨_, _, rfl, rfl, along.name⟩
  | keyword keyword =>
      cases stepped
      exact .inl ⟨_, _, rfl, rfl, along.keyword (fun same => other (same ▸ rfl))⟩
  | operator | quoted | number =>
      cases stepped
      exact .inl ⟨_, _, rfl, rfl, along⟩
  | marker =>
      cases stepped
      simp only [Resolver.accept, marker, same rfl]
      cases alone.column? with
      | none => exact .inr ⟨rfl, rfl⟩
      | some column => exact .inl ⟨_, _, rfl, rfl, { along with }⟩
  | leftParen =>
      cases stepped
      exact .inl ⟨_, _, rfl, rfl, along.openGroup span⟩
  | rightParen =>
      cases depth with
      | zero => cases stepped
      | succ depth =>
          cases stepped
          exact .inl (along.closeGroup span)
  | comma =>
      cases stepped
      exact .inl ⟨_, _, rfl, rfl, along.mapCurrent .nextItem⟩
  | semicolon =>
      cases stepped
      exact .inl ⟨_, _, rfl, rfl, along.endStatement⟩

/-- Between the parentheses, markers that a row leaves their columns are bound alike, and both
runs get through or stop at the same one. -/
theorem runBefore (along : Alongside context row? depth inside alone)
    (ends : opensGroup rest = false)
    (noInsert : ∀ token ∈ tokens, token.kind ≠ .keyword .INSERT)
    (balanced : depthAfter depth tokens = some last) (clear : alone.Clear row? tokens) :
    columnsBefore rest inside tokens = columnsBefore [] alone tokens ∧
      ((∃ inside' alone', Resolver.runBefore rest inside tokens = .ok inside' ∧
          Resolver.runBefore [] alone tokens = .ok alone' ∧
          Alongside context row? last inside' alone') ∨
        ∃ ordinal ordinalAlone span,
          Resolver.runBefore rest inside tokens = .error (.unresolvedMarker ordinal span) ∧
          Resolver.runBefore [] alone tokens =
            .error (.unresolvedMarker ordinalAlone span)) := by
  induction tokens generalizing depth inside alone with
  | nil =>
      cases balanced
      exact ⟨rfl, .inl ⟨inside, alone, rfl, rfl, along⟩⟩
  | cons token tokens ih =>
      obtain ⟨next, stepped, balanced⟩ := Option.bind_eq_some_iff.mp balanced
      have same : token.isMarker = true → inside.column? = alone.column? := fun marked =>
        along.column?_eq_iff.mpr (clear.1 marked)
      have here : inside.columnAt token = alone.columnAt token := columnAt_congr same
      have other := noInsert token List.mem_cons_self
      rcases along.accept (opensGroup tokens) other stepped same with
        ⟨inside', alone', accepted, acceptedAlone, along'⟩ | ⟨refused, refusedAlone⟩
      · have clear' : alone'.Clear row? tokens := clear.2 alone' acceptedAlone
        rw [← opensGroup_append ends] at accepted
        rw [← List.append_nil tokens] at acceptedAlone
        rw [columnsBefore_cons_of_ok accepted, columnsBefore_cons_of_ok acceptedAlone, here,
          runBefore_cons_of_ok accepted, runBefore_cons_of_ok acceptedAlone]
        obtain ⟨columns, ended⟩ := ih along'
          (fun token member => noInsert token (List.mem_cons_of_mem _ member)) balanced
          clear'
        exact ⟨congrArg _ columns, ended⟩
      · rw [← opensGroup_append ends] at refused
        rw [← List.append_nil tokens] at refusedAlone
        refine ⟨?_, .inr ⟨_, _, _, runBefore_cons_of_error refused,
          runBefore_cons_of_error refusedAlone⟩⟩
        rw [columnsBefore_cons_of_error refused, columnsBefore_cons_of_error refusedAlone,
          here]

/-- Markers that are bound alike are left their columns. -/
theorem clear_of_columnsBefore (along : Alongside context row? depth inside alone)
    (ends : opensGroup rest = false)
    (noInsert : ∀ token ∈ tokens, token.kind ≠ .keyword .INSERT)
    (balanced : depthAfter depth tokens = some last)
    (columns : columnsBefore rest inside tokens = columnsBefore [] alone tokens) :
    alone.Clear row? tokens := by
  induction tokens generalizing depth inside alone with
  | nil => trivial
  | cons token tokens ih =>
      obtain ⟨next, stepped, balanced⟩ := Option.bind_eq_some_iff.mp balanced
      have same : token.isMarker = true → inside.column? = alone.column? := fun marked => by
        have heads := congrArg List.head? columns
        rw [head?_columnsBefore marked, head?_columnsBefore marked] at heads
        exact Option.some.inj heads
      have other := noInsert token List.mem_cons_self
      refine ⟨fun marked => along.column?_eq_iff.mp (same marked), fun alone' went => ?_⟩
      rcases along.accept (opensGroup tokens) other stepped same with
        ⟨inside', _, accepted, acceptedAlone, along'⟩ | ⟨-, refusedAlone⟩
      · cases acceptedAlone.symm.trans went
        rw [← opensGroup_append ends] at accepted
        rw [← List.append_nil tokens] at acceptedAlone
        rw [columnsBefore_cons_of_ok accepted, columnsBefore_cons_of_ok acceptedAlone,
          columnAt_congr same] at columns
        exact ih along' (fun token member => noInsert token (List.mem_cons_of_mem _ member))
          balanced (List.append_cancel_left columns)
      · cases refusedAlone.symm.trans went

end Alongside

end Resolver

end BindStream
