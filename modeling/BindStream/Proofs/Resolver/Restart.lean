import BindStream.Proofs.Group
import BindStream.Proofs.Resolver.Spans

namespace BindStream

/-! A resolver that goes on behind some parameters as another one begins. -/

/-- Two statements that look the same to their markers and to the groups in them. What else a
statement has shown, its items and its first column, is read of groups in parentheses only. -/
structure Group.SameRoot (first second : Group) : Prop where
  root : first.kind = .root
  rootToo : second.kind = .root
  nearest : first.nearest = second.nearest
  between : first.betweenPending = second.betweenPending
  tuple : first.tuple = second.tuple

def Group.KeepsRoots (f : Group → Group) : Prop :=
  ∀ first second, first.SameRoot second → (f first).SameRoot (f second)

namespace Group.KeepsRoots

theorem push (column : String) : KeepsRoots fun group => group.push column :=
  fun _ _ same => { same with nearest := rfl, tuple := rfl }

theorem boundary : KeepsRoots Group.boundary :=
  fun _ _ same => ⟨same.root, same.rootToo, rfl, rfl, rfl⟩

theorem nextItem : KeepsRoots Group.nextItem :=
  fun _ _ same => ⟨same.root, same.rootToo, rfl, rfl, rfl⟩

theorem betweenPending : KeepsRoots fun group => { group with betweenPending := true } :=
  fun _ _ same => { same with between := rfl }

theorem dropTuple : KeepsRoots fun group => { group with tuple := none } :=
  fun _ _ same => { same with tuple := rfl }

theorem id : KeepsRoots fun group => group := fun _ _ same => same

theorem conjunction : KeepsRoots Group.conjunction := by
  intro first second same
  cases pending : second.betweenPending with
  | true =>
      rw [conjunction_of_pending second pending,
        conjunction_of_pending first (same.between.trans pending)]
      exact { same with between := rfl }
  | false =>
      rw [conjunction_of_not_pending second pending,
        conjunction_of_not_pending first (same.between.trans pending)]
      exact boundary first second same

theorem absorb (inner : Group) : KeepsRoots fun group => group.absorb inner := by
  intro first second same
  change (first.absorb inner).SameRoot (second.absorb inner)
  rw [absorb_eq, absorb_eq]
  exact { same with nearest := rfl, tuple := by dsimp only; rw [same.tuple] }

end Group.KeepsRoots

/-- Two stacks of groups that differ in the statement at the bottom only. -/
inductive SameInside : List Group → List Group → Prop
  | root {first second : Group} (same : first.SameRoot second) : SameInside [first] [second]
  | inner {group : Group} {outer others : List Group} (same : SameInside outer others) :
      SameInside (group :: outer) (group :: others)

namespace SameInside

variable {first second : Group} {outer others : List Group}

theorem map_head {f : Group → Group} (keeps : Group.KeepsRoots f)
    (same : SameInside (first :: outer) (second :: others)) :
    SameInside (f first :: outer) (f second :: others) := by
  cases same with
  | root same => exact .root (keeps _ _ same)
  | inner same => exact .inner same

theorem columnIn_root {group : Group} (root : group.kind = .root) (insertColumns : Columns) :
    BindStream.columnIn insertColumns [group] = group.nearest := by
  have byName : group.positional insertColumns = none := by
    unfold Group.positional
    rw [root]
    exact ite_self none
  rw [columnIn, byName]
  cases group.nearest with
  | none => exact ite_self none
  | some column => rfl

theorem columnIn (same : SameInside outer others) (insertColumns : Columns) :
    BindStream.columnIn insertColumns outer = BindStream.columnIn insertColumns others := by
  induction same with
  | root same =>
      rw [columnIn_root same.root, columnIn_root same.rootToo]
      exact same.nearest
  | inner _ ih => rw [BindStream.columnIn, BindStream.columnIn, ih]

theorem innerKind (same : SameInside (first :: outer) (second :: others)) :
    Resolver.innerKind first = Resolver.innerKind second := by
  cases same with
  | root same =>
      unfold Resolver.innerKind
      rw [same.root, same.rootToo, same.tuple]
  | inner same => rfl

theorem isEmpty_outer (same : SameInside (first :: outer) (second :: others)) :
    outer.isEmpty = others.isEmpty := by
  cases same with
  | root => rfl
  | inner same => cases same <;> rfl

end SameInside

/-- What a text comes to behind some parameters, in `octets` octets. -/
def resolvedBehind (before : List Parameter) (octets : Nat) :
    Except ResolveError (List Parameter) → Except ResolveError (List Parameter)
  | .ok found => .ok (before ++ found.map (Parameter.shift before.length octets))
  | .error failure => .error (failure.shift before.length octets)

theorem resolvedBehind_mapOutcome (before : List Parameter) (octets : Nat)
    (outcome : Except ResolveError (List Parameter)) :
    resolvedBehind before 0
        (mapOutcome (Span.shift octets) (List.map (Parameter.mapSpan (Span.shift octets))) outcome) =
      resolvedBehind before octets outcome := by
  cases outcome with
  | ok found =>
      rw [mapOutcome, resolvedBehind, resolvedBehind, List.map_map]
      rfl
  | error failure => cases failure <;> rfl

namespace Resolver

/-- A resolver that has made some parameters before, and else stands as another one does. -/
structure Continues (before : List Parameter) (first second : Resolver) : Prop where
  groups : SameInside first.groups second.groups
  insert : first.insert = second.insert
  calls : first.callPending = second.callPending
  parameters : first.parameters =
    before ++ second.parameters.map (Parameter.shift before.length 0)

namespace Continues

variable {before : List Parameter} {first second : Resolver} {token : Token}
variable {callFollows : Bool}

theorem atRoot (continues : Continues before first second) : first.atRoot = second.atRoot :=
  continues.groups.isEmpty_outer

theorem column? (continues : Continues before first second) :
    first.column? = second.column? := by
  rw [Resolver.column?, Resolver.column?, insertColumns, insertColumns, continues.insert]
  exact continues.groups.columnIn _

theorem mapCurrent {f : Group → Group} (keeps : Group.KeepsRoots f)
    (continues : Continues before first second) :
    Continues before (first.mapCurrent f) (second.mapCurrent f) :=
  { continues with groups := continues.groups.map_head keeps }

theorem name (continues : Continues before first second) :
    Continues before (first.name token callFollows) (second.name token callFollows) := by
  cases callFollows with
  | true => exact { continues with calls := rfl }
  | false =>
      unfold Resolver.name
      cases token.columnName with
      | none => exact continues
      | some column => exact continues.mapCurrent (.push column)

theorem openClause (continues : Continues before first second) (keyword : Keyword) :
    Continues before (first.openClause keyword) (second.openClause keyword) := by
  have bounded := continues.mapCurrent .boundary
  unfold Resolver.openClause
  rw [continues.atRoot]
  cases second.atRoot with
  | false => exact bounded
  | true => exact { bounded with insert := by simp only [if_true, continues.insert] }

theorem keyword (continues : Continues before first second) (keyword : Keyword) :
    Continues before (first.keyword keyword) (second.keyword keyword) := by
  unfold Resolver.keyword
  split
  · exact continues.mapCurrent .conjunction
  · exact continues.mapCurrent .boundary
  · exact continues.mapCurrent .betweenPending
  · rw [continues.atRoot]
    cases second.atRoot with
    | false => exact continues
    | true =>
        exact { continues with insert := by simp only [if_true, beginInsert, continues.insert] }
  · split
    · exact continues.openClause keyword
    · exact continues

theorem endStatement (continues : Continues before first second) :
    Continues before first.endStatement second.endStatement := by
  have bounded := continues.mapCurrent .boundary
  unfold Resolver.endStatement
  rw [continues.atRoot]
  cases second.atRoot with
  | false => exact bounded
  | true => exact { bounded with insert := rfl }

theorem enter {f : Group → Group} (keeps : Group.KeepsRoots f)
    (continues : Continues before first second) (kind : GroupKind) (span : Span) :
    Continues before (first.enter (f first.current) kind span)
      (second.enter (f second.current) kind span) :=
  { continues with
    groups := .inner (continues.groups.map_head keeps)
    calls := rfl }

theorem openGroup (continues : Continues before first second) (span : Span) :
    Continues before (first.openGroup span) (second.openGroup span) := by
  have sameKind : first.insertKind? = second.insertKind? := by
    unfold insertKind?
    rw [continues.atRoot, continues.insert]
  unfold Resolver.openGroup
  rw [sameKind, continues.calls, continues.groups.innerKind]
  cases second.insertKind? with
  | some kind => exact continues.enter .id kind span
  | none =>
      dsimp only
      split
      · exact continues.enter .id .call span
      · exact continues.enter .dropTuple _ span

theorem marker (continues : Continues before first second) (span : Span) :
    (∃ first' second', first.marker span = .ok first' ∧ second.marker span = .ok second' ∧
      Continues before first' second') ∨
    ∃ failure, first.marker span = .error (failure.shift before.length 0) ∧
      second.marker span = .error failure := by
  have ordinal : first.parameters.length = second.parameters.length + before.length := by
    rw [continues.parameters, List.length_append, List.length_map, Nat.add_comm]
  unfold Resolver.marker
  rw [continues.column?]
  cases second.column? with
  | none => exact .inr ⟨_, by rw [ordinal]; rfl, rfl⟩
  | some column =>
      refine .inl ⟨_, _, rfl, rfl, { continues with parameters := ?_ }⟩
      dsimp only
      rw [ordinal, continues.parameters, List.map_append, List.append_assoc]
      rfl

theorem closeGroup (continues : Continues before first second) (span : Span) :
    (∃ first' second', first.closeGroup span = .ok first' ∧
      second.closeGroup span = .ok second' ∧ Continues before first' second') ∨
    ∃ failure, first.closeGroup span = .error (failure.shift before.length 0) ∧
      second.closeGroup span = .error failure := by
  obtain ⟨current, outer, insert, callPending, parameters⟩ := first
  obtain ⟨current', outer', insert', callPending', parameters'⟩ := second
  obtain ⟨groups, sameInsert, calls, parameters⟩ := continues
  cases sameInsert
  cases groups with
  | root same => exact .inr ⟨.unbalancedParenthesis span, rfl, rfl⟩
  | inner same =>
      cases same with
      | root same =>
          refine .inl ⟨_, _, rfl, rfl, ?_, rfl, calls, parameters⟩
          exact .root (Group.KeepsRoots.absorb _ _ _ same)
      | inner same => exact .inl ⟨_, _, rfl, rfl, .inner same, rfl, calls, parameters⟩

theorem accept (continues : Continues before first second) (token : Token)
    (callFollows : Bool) :
    (∃ first' second', first.accept token callFollows = .ok first' ∧
      second.accept token callFollows = .ok second' ∧ Continues before first' second') ∨
    ∃ failure, first.accept token callFollows = .error (failure.shift before.length 0) ∧
      second.accept token callFollows = .error failure := by
  obtain ⟨kind, text, span⟩ := token
  cases kind with
  | identifier | quotedIdentifier => exact .inl ⟨_, _, rfl, rfl, continues.name⟩
  | keyword keyword => exact .inl ⟨_, _, rfl, rfl, continues.keyword keyword⟩
  | operator | quoted | number => exact .inl ⟨_, _, rfl, rfl, continues⟩
  | marker => exact continues.marker span
  | leftParen => exact .inl ⟨_, _, rfl, rfl, continues.openGroup span⟩
  | rightParen => exact continues.closeGroup span
  | comma => exact .inl ⟨_, _, rfl, rfl, continues.mapCurrent .nextItem⟩
  | semicolon => exact .inl ⟨_, _, rfl, rfl, continues.endStatement⟩

theorem run (continues : Continues before first second) (tokens : List Token) :
    (∃ first' second', first.run tokens = .ok first' ∧ second.run tokens = .ok second' ∧
      Continues before first' second') ∨
    ∃ failure, first.run tokens = .error (failure.shift before.length 0) ∧
      second.run tokens = .error failure := by
  induction tokens generalizing first second with
  | nil => exact .inl ⟨first, second, rfl, rfl, continues⟩
  | cons token tokens ih =>
      rcases continues.accept token (opensGroup tokens) with
        ⟨first', second', accepted, acceptedToo, continues⟩ | ⟨failure, refused, refusedToo⟩
      · rw [run_cons_of_ok accepted, run_cons_of_ok acceptedToo]
        exact ih continues
      · exact .inr ⟨failure, run_cons_of_error refused, run_cons_of_error refusedToo⟩

theorem finish (continues : Continues before first second) :
    first.finish = resolvedBehind before 0 second.finish := by
  unfold Resolver.finish
  rw [continues.atRoot]
  cases root : second.atRoot with
  | true => exact congrArg Except.ok continues.parameters
  | false =>
      have same : first.current = second.current := by
        obtain ⟨current, outer, _, _, _⟩ := first
        obtain ⟨current', outer', _, _, _⟩ := second
        cases continues.groups with
        | root => cases root
        | inner same => rfl
      rw [same]
      rfl

theorem outcome (continues : Continues before first second) (tokens : List Token) :
    (first.run tokens >>= Resolver.finish) =
      resolvedBehind before 0 (second.run tokens >>= Resolver.finish) := by
  rcases continues.run tokens with
    ⟨first', second', ran, ranToo, continues⟩ | ⟨failure, refused, refusedToo⟩
  · rw [ran, ranToo]
    exact continues.finish
  · rw [refused, refusedToo]
    rfl

end Continues

variable {resolver next last : Resolver} {token : Token} {tokens : List Token}

theorem callPending_keyword (keyword : Keyword) :
    (resolver.keyword keyword).callPending = resolver.callPending := by
  unfold Resolver.keyword openClause
  repeat' split
  all_goals rfl

theorem callPending_openGroup (span : Span) : (resolver.openGroup span).callPending = false := by
  unfold openGroup
  repeat' split
  all_goals rfl

theorem callPending_endStatement :
    resolver.endStatement.callPending = resolver.callPending := by
  unfold endStatement
  split <;> rfl

theorem callPending_closeGroup {span : Span} (closed : resolver.closeGroup span = .ok next) :
    next.callPending = resolver.callPending := by
  unfold closeGroup at closed
  split at closed
  · cases closed
  · cases closed
    rfl

/-- A function's name is told to the group that opens next, and to nothing else. -/
theorem callPending_accept {callFollows : Bool}
    (accepted : resolver.accept token callFollows = .ok next)
    (pending : resolver.callPending = true → token.kind = .leftParen)
    (called : next.callPending = true) : callFollows = true := by
  obtain ⟨kind, text, span⟩ := token
  have spent (other : kind ≠ .leftParen) (kept : next.callPending = resolver.callPending) :
      callFollows = true := absurd (pending (kept.symm.trans called)) other
  cases kind with
  | identifier | quotedIdentifier =>
      cases accepted
      cases callFollows with
      | true => rfl
      | false =>
          refine spent (by rintro ⟨⟩) ?_
          unfold name
          split
          · contradiction
          · split <;> rfl
  | keyword keyword =>
      cases accepted
      exact spent (by rintro ⟨⟩) (callPending_keyword keyword)
  | operator | quoted | number | comma =>
      cases accepted
      exact spent (by rintro ⟨⟩) rfl
  | marker =>
      obtain ⟨column, -, rfl⟩ := marker_eq_ok accepted
      exact spent (by rintro ⟨⟩) rfl
  | leftParen =>
      cases accepted
      rw [callPending_openGroup] at called
      cases called
  | rightParen => exact spent (by rintro ⟨⟩) (callPending_closeGroup accepted)
  | semicolon =>
      cases accepted
      exact spent (by rintro ⟨⟩) callPending_endStatement

theorem callPending_of_run (ran : resolver.run tokens = .ok last)
    (pending : resolver.callPending = true → opensGroup tokens = true) :
    last.callPending = false := by
  induction tokens generalizing resolver with
  | nil =>
      cases ran
      exact Bool.eq_false_iff.mpr fun called => Bool.false_ne_true (pending called)
  | cons token tokens ih =>
      cases accepted : resolver.accept token (opensGroup tokens) with
      | error failure =>
          rw [run_cons_of_error accepted] at ran
          cases ran
      | ok next =>
          rw [run_cons_of_ok accepted] at ran
          refine ih ran (callPending_accept accepted fun called => ?_)
          exact eq_of_beq (pending called)

/-- Nothing but its own keyword begins an insertion. -/
theorem insert_accept {callFollows : Bool}
    (accepted : resolver.accept token callFollows = .ok next) (outside : resolver.insert = none)
    (other : token.kind ≠ .keyword .INSERT) : next.insert = none := by
  obtain ⟨kind, text, span⟩ := token
  cases kind with
  | identifier | quotedIdentifier =>
      cases accepted
      unfold name
      split
      · exact outside
      · split <;> exact outside
  | keyword keyword =>
      cases accepted
      unfold Resolver.keyword
      split
      case h_4 => contradiction
      case h_5 =>
          unfold openClause
          split
          · split
            · rw [outside]
              rfl
            · exact outside
          · exact outside
      all_goals exact outside
  | operator | quoted | number | comma =>
      cases accepted
      exact outside
  | marker =>
      obtain ⟨column, -, rfl⟩ := marker_eq_ok accepted
      exact outside
  | leftParen =>
      cases accepted
      unfold openGroup
      repeat' split
      all_goals exact outside
  | rightParen =>
      have closed : resolver.closeGroup span = .ok next := accepted
      unfold closeGroup at closed
      split at closed
      · cases closed
      · cases closed
        rw [outside]
        exact ite_self none
  | semicolon =>
      cases accepted
      unfold endStatement
      split
      · rfl
      · exact outside

theorem insert_of_run (ran : resolver.run tokens = .ok last) (outside : resolver.insert = none)
    (noInsert : ∀ token ∈ tokens, token.kind ≠ .keyword .INSERT) : last.insert = none := by
  induction tokens generalizing resolver with
  | nil =>
      cases ran
      exact outside
  | cons token tokens ih =>
      cases accepted : resolver.accept token (opensGroup tokens) with
      | error failure =>
          rw [run_cons_of_error accepted] at ran
          cases ran
      | ok next =>
          rw [run_cons_of_ok accepted] at ran
          exact ih ran (insert_accept accepted outside (noInsert token List.mem_cons_self))
            fun other member => noInsert other (List.mem_cons_of_mem token member)

theorem continues_initial : Continues [] initial initial where
  groups := .root ⟨rfl, rfl, rfl, rfl, rfl⟩
  insert := rfl
  calls := rfl
  parameters := rfl

/-- Outside all parentheses a resolver is back in the group of the statement itself. -/
theorem kind_current_of_run (ran : initial.run tokens = .ok last) (whole : last.atRoot = true) :
    last.current.kind = .root := by
  -- Beside itself, the resolver shows that the statement is still at the bottom.
  rcases continues_initial.run tokens with ⟨_, _, first, second, continues⟩ | ⟨_, -, refused⟩
  · cases ran.symm.trans first
    cases ran.symm.trans second
    obtain ⟨current, outer, insert, callPending, parameters⟩ := last
    cases List.isEmpty_iff.mp whole
    cases continues.groups with
    | root same => exact same.root
    | inner same => cases same
  · cases ran.symm.trans refused

/-- Behind the end of a statement that is whole, a resolver stands as at the beginning. -/
theorem continues_endStatement (ran : initial.run tokens = .ok last) (whole : last.atRoot = true)
    (f : Span → Span) : Continues last.parameters last.endStatement (initial.mapSpans f) := by
  have calls : last.callPending = false := callPending_of_run ran (by rintro ⟨⟩)
  have root := kind_current_of_run ran whole
  unfold endStatement
  rw [if_pos whole]
  refine ⟨?_, rfl, calls, (List.append_nil _).symm⟩
  obtain ⟨current, outer, insert, callPending, parameters⟩ := last
  cases List.isEmpty_iff.mp whole
  exact .root ⟨root, rfl, rfl, rfl, rfl⟩

end Resolver

end BindStream
