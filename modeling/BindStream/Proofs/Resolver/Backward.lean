import Mathlib
import BindStream.Proofs.Group
import BindStream.Proofs.Resolver.Outline
import BindStream.Proofs.Resolver.Run

namespace BindStream

/-! The state of a resolver is what a scan back over the tokens before it finds. -/

/-- A group that has shown what a scan over its members finds. As the commas in parentheses only
divide arguments, it is neither a row nor a tuple that one is compared with. -/
structure Group.Recalls (group : Group) (outline : Outline) : Prop where
  kind : group.kind =
    match outline.enclosing with
    | [] => .root
    | around :: _ => if endsInCallee around.before then .call else .nested
  items : group.item = 0 ∨ outline.inArguments = true
  nearest : group.nearest = nearestColumn outline.members
  first : group.firstColumn = (columnsAmong outline.members).head?
  pending : group.betweenPending = pendingBetween outline.members
  bounded : group.bounded = boundedBy outline.members
  tuple : group.tuple = none

namespace Group.Recalls

variable {group inner : Group} {outline : Outline} {token : Token} {opens : Bool}

theorem first_unnamed (recalls : group.Recalls outline)
    (unnamed : (Member.token token opens).column? = none) :
    group.firstColumn = (columnsAmong (.token token opens :: outline.members)).head? := by
  rw [head?_columnsAmong, unnamed, Option.or_none]
  exact recalls.first

theorem quiet (recalls : group.Recalls outline) (quiet : token.Quiet)
    (unnamed : (Member.token token opens).column? = none) :
    group.Recalls (outline.add (.token token opens)) :=
  { recalls with
    nearest := by
      rw [recalls.nearest, Outline.add, nearestColumn_of_not_separator quiet.not_separator,
        unnamed, Option.none_or]
    first := recalls.first_unnamed unnamed
    pending := recalls.pending.trans quiet.pendingBetween.symm
    bounded := recalls.bounded.trans quiet.boundedBy.symm }

theorem push {column : String} (recalls : group.Recalls outline) (quiet : token.Quiet)
    (named : token.columnName = some column) :
    (group.push column).Recalls (outline.add (.token token false)) := by
  have candidate : (Member.token token false).column? = some column := by
    rw [Member.column?, Member.columns, named]
    rfl
  exact {
    recalls with
    nearest := by
      rw [Outline.add, nearestColumn_of_not_separator quiet.not_separator, candidate,
        Option.some_or]
      rfl
    first := by
      rw [Outline.add, head?_columnsAmong, candidate, ← recalls.first]
      rfl
    pending := recalls.pending.trans quiet.pendingBetween.symm
    bounded := recalls.bounded.trans quiet.boundedBy.symm
    tuple := rfl }

theorem boundary (recalls : group.Recalls outline)
    (separator : isSeparator token outline.members = true) (other : token.kind ≠ .comma)
    (unnamed : token.columnName = none) :
    group.boundary.Recalls (outline.add (.token token opens)) :=
  { recalls with
    nearest := (nearestColumn_of_separator separator).symm
    first := recalls.first_unnamed (column?_token unnamed)
    pending := (pendingBetween_of_separator separator).symm
    bounded := by
      rw [Outline.add, boundedBy, separator, bne, beq_false_of_ne other]
      rfl
    tuple := rfl }

theorem nextItem (recalls : group.Recalls outline) (comma : token.kind = .comma)
    (listed : outline.inArguments = true) :
    group.nextItem.Recalls (outline.add (.token token opens)) := by
  have separator : isSeparator token outline.members = true := by
    rw [isSeparator, Token.separates, comma]
    rfl
  exact {
    recalls with
    items := .inr listed
    nearest := (nearestColumn_of_separator separator).symm
    first := recalls.first_unnamed (column?_token (by rw [Token.columnName, comma]))
    pending := (pendingBetween_of_separator separator).symm
    bounded := by
      rw [Outline.add, boundedBy, comma]
      exact recalls.bounded
    tuple := rfl }

theorem conjunction (recalls : group.Recalls outline) (conjunct : token.kind = .keyword .AND) :
    group.conjunction.Recalls (outline.add (.token token opens)) := by
  have unnamed : token.columnName = none := by rw [Token.columnName, conjunct]
  have separator : isSeparator token outline.members = !pendingBetween outline.members := by
    rw [isSeparator, Token.separates, conjunct]
    rfl
  cases pending : pendingBetween outline.members with
  | true =>
      rw [conjunction_of_pending group (recalls.pending.trans pending)]
      have free : isSeparator token outline.members = false := by rw [separator, pending]; rfl
      exact {
        recalls with
        nearest := by
          rw [Outline.add, nearestColumn_of_not_separator free, column?_token unnamed,
            Option.none_or]
          exact recalls.nearest
        first := recalls.first_unnamed (column?_token unnamed)
        pending := by
          rw [Outline.add, pendingBetween, conjunct]
          rfl
        bounded := by
          rw [Outline.add, boundedBy, free, Bool.and_false]
          exact recalls.bounded }
  | false =>
      rw [conjunction_of_not_pending group (recalls.pending.trans pending)]
      exact recalls.boundary (by rw [separator, pending]; rfl) (by simp [conjunct]) unnamed

theorem between (recalls : group.Recalls outline) (between : token.kind = .keyword .BETWEEN) :
    ({ group with betweenPending := true } : Group).Recalls
      (outline.add (.token token opens)) := by
  have unnamed : token.columnName = none := by rw [Token.columnName, between]
  have free : isSeparator token outline.members = false := by
    rw [isSeparator, Token.separates, between]
    rfl
  exact {
    recalls with
    nearest := by
      rw [Outline.add, nearestColumn_of_not_separator free, column?_token unnamed,
        Option.none_or]
      exact recalls.nearest
    first := recalls.first_unnamed (column?_token unnamed)
    pending := by
      rw [Outline.add, pendingBetween, between]
      rfl
    bounded := by
      rw [Outline.add, boundedBy, free, Bool.and_false]
      exact recalls.bounded }

theorem start_top (span : Span) : (start .root span).Recalls .top :=
  ⟨rfl, .inl rfl, rfl, rfl, rfl, rfl, rfl⟩

theorem start_inner {kind : GroupKind} {around : Enclosing}
    (same : kind = if endsInCallee around.before then .call else .nested) (span : Span)
    (enclosing : List Enclosing) : (start kind span).Recalls ⟨[], around :: enclosing⟩ :=
  ⟨same, .inl rfl, rfl, rfl, rfl, rfl, rfl⟩

theorem absorb {around : Enclosing} {enclosing : List Enclosing} {members : List Member}
    (recalls : group.Recalls ⟨around.before, enclosing⟩)
    (closes : inner.Recalls ⟨members, around :: enclosing⟩) (opening closing : Token) :
    (group.absorb inner).Recalls
      ⟨.group opening members closing :: around.before, enclosing⟩ := by
  have noRow : ¬ (0 < inner.item ∧ inner.kind ≠ .call) := by
    rintro ⟨several, notCall⟩
    rcases closes.items with one | called
    · omega
    · exact notCall (closes.kind.trans (if_pos called))
  rw [absorb_eq]
  exact {
    recalls with
    nearest := by
      rw [nearestColumn_group]
      exact closes.first
    first := by
      rw [head?_columnsAmong, Member.column?, Member.columns, ← closes.first, ← recalls.first]
    tuple := by
      dsimp only
      rw [if_neg noRow, recalls.tuple, ite_self] }

theorem positional (recalls : group.Recalls outline) : group.positional [] = none := by
  unfold Group.positional
  rw [recalls.kind]
  obtain ⟨members, enclosing⟩ := outline
  cases enclosing with
  | nil => exact ite_self none
  | cons around enclosing =>
      dsimp only
      cases endsInCallee around.before <;> exact ite_self none

theorem innerKind (recalls : group.Recalls outline) : Resolver.innerKind group = .nested := by
  unfold Resolver.innerKind
  rw [recalls.kind, recalls.tuple]
  obtain ⟨members, enclosing⟩ := outline
  cases enclosing with
  | nil => rfl
  | cons around enclosing =>
      dsimp only
      cases endsInCallee around.before <;> rfl

end Group.Recalls

/-- Groups, innermost first, that have shown what lies in an outline. -/
inductive Traces : List Group → Outline → Prop
  | top {group : Group} {members : List Member} (recalls : group.Recalls ⟨members, []⟩) :
      Traces [group] ⟨members, []⟩
  | inner {group : Group} {groups : List Group} {members : List Member} {around : Enclosing}
      {enclosing : List Enclosing} (recalls : group.Recalls ⟨members, around :: enclosing⟩)
      (outer : Traces groups ⟨around.before, enclosing⟩) :
      Traces (group :: groups) ⟨members, around :: enclosing⟩

namespace Traces

variable {group : Group} {outer groups : List Group} {outline : Outline} {member : Member}

theorem head (traces : Traces (group :: outer) outline) : group.Recalls outline := by
  cases traces with
  | top recalls => exact recalls
  | inner recalls => exact recalls

theorem exists_cons (traces : Traces groups outline) : ∃ group outer, groups = group :: outer := by
  cases traces with
  | top => exact ⟨_, _, rfl⟩
  | inner => exact ⟨_, _, rfl⟩

theorem add {changed : Group} (traces : Traces (group :: outer) outline)
    (recalls : changed.Recalls (outline.add member)) :
    Traces (changed :: outer) (outline.add member) := by
  cases traces with
  | top => exact .top recalls
  | inner _ around => exact .inner recalls around

theorem columnIn (traces : Traces groups outline) :
    BindStream.columnIn [] groups = outline.column? := by
  induction traces with
  | @top group members recalls =>
      rw [BindStream.columnIn, recalls.positional, recalls.nearest, Outline.column?_top]
      cases nearestColumn members with
      | some column => rfl
      | none => exact ite_self none
  | @inner group groups members around enclosing recalls _ ih =>
      rw [BindStream.columnIn, recalls.positional, recalls.nearest, recalls.bounded, ih,
        Outline.column?_inner]
      cases nearestColumn members <;> rfl

end Traces

namespace Resolver

/-- A resolver that has read what lies in an outline and comes to some tokens. -/
structure Follows (resolver : Resolver) (outline : Outline) (tokens : List Token) : Prop where
  traces : Traces resolver.groups outline
  insert : resolver.insert = none
  calls : resolver.callPending = endsInCallee outline.members
  opens : endsInCallee outline.members = true → opensGroup tokens = true

namespace Follows

variable {resolver : Resolver} {outline : Outline} {token : Token} {tokens : List Token}
variable {opens : Bool}

theorem column? (follows : Follows resolver outline tokens) :
    resolver.column? = outline.column? := by
  rw [Resolver.column?, Resolver.insertColumns, follows.insert]
  exact follows.traces.columnIn

/-- Between a function's name and its arguments comes no other token. -/
theorem not_endsInCallee (follows : Follows resolver outline (token :: tokens))
    (other : token.kind ≠ .leftParen) : endsInCallee outline.members = false :=
  Bool.eq_false_iff.mpr fun called => other (eq_of_beq (follows.opens called))

/-- A token that has no effect but on the group it is in. -/
theorem mapCurrent {f : Group → Group} (follows : Follows resolver outline (token :: tokens))
    (inside : token.kind ≠ .leftParen)
    (silent : endsInCallee (.token token opens :: outline.members) = false)
    (recalls : resolver.current.Recalls outline →
      (f resolver.current).Recalls (outline.add (.token token opens))) :
    Follows (resolver.mapCurrent f) (outline.add (.token token opens)) tokens where
  traces := follows.traces.add (recalls follows.traces.head)
  insert := follows.insert
  calls := (follows.calls.trans (follows.not_endsInCallee inside)).trans silent.symm
  opens := fun called => absurd called (Bool.eq_false_iff.mp silent)

theorem quiet (follows : Follows resolver outline (token :: tokens))
    (inside : token.kind ≠ .leftParen) (quiet : token.Quiet) (unnamed : token.columnName = none) :
    Follows resolver (outline.add (.token token opens)) tokens :=
  follows.mapCurrent (f := id) inside (endsInCallee_of_unnamed unnamed)
    fun recalls => recalls.quiet quiet (column?_token unnamed)

theorem name {column : String} (follows : Follows resolver outline (token :: tokens))
    (inside : token.kind ≠ .leftParen) (quiet : token.Quiet)
    (named : token.columnName = some column) :
    Follows (resolver.name token (opensGroup tokens))
      (outline.add (.token token (opensGroup tokens))) tokens := by
  cases opens : opensGroup tokens with
  | true =>
      exact {
        traces := follows.traces.add (follows.traces.head.quiet quiet rfl)
        insert := follows.insert
        calls := by
          rw [Outline.add, endsInCallee, named]
          rfl
        opens := fun _ => opens }
  | false =>
      unfold Resolver.name
      rw [named]
      exact follows.mapCurrent (f := (·.push column)) inside rfl
        fun recalls => recalls.push quiet named

theorem openClause_eq (follows : Follows resolver outline tokens) (keyword : Keyword) :
    resolver.openClause keyword = resolver.mapCurrent Group.boundary := by
  obtain ⟨current, outer, insert, callPending, parameters⟩ := resolver
  cases follows.insert
  exact ite_self _

theorem endStatement_eq (follows : Follows resolver outline tokens) :
    resolver.endStatement = resolver.mapCurrent Group.boundary := by
  obtain ⟨current, outer, insert, callPending, parameters⟩ := resolver
  cases follows.insert
  exact ite_self _

theorem boundary (follows : Follows resolver outline (token :: tokens))
    (inside : token.kind ≠ .leftParen) (separates : token.separates = true)
    (other : token.kind ≠ .comma) (unnamed : token.columnName = none) :
    Follows (resolver.mapCurrent Group.boundary) (outline.add (.token token opens)) tokens := by
  have separator : isSeparator token outline.members = true := by
    rw [isSeparator, separates]
    rfl
  exact follows.mapCurrent inside (endsInCallee_of_unnamed unnamed)
    fun recalls => recalls.boundary separator other unnamed

theorem keyword {keyword : Keyword} (follows : Follows resolver outline (token :: tokens))
    (kind : token.kind = .keyword keyword) (noInsert : keyword ≠ .INSERT) :
    Follows (resolver.keyword keyword) (outline.add (.token token opens)) tokens := by
  have inside : token.kind ≠ .leftParen := by simp [kind]
  have other : token.kind ≠ .comma := by simp [kind]
  have unnamed : token.columnName = none := by rw [Token.columnName, kind]
  have separates : token.separates = (keyword == .OR || keyword.opensClause) := by
    rw [Token.separates, kind]
  have silent : endsInCallee (.token token opens :: outline.members) = false :=
    endsInCallee_of_unnamed unnamed
  unfold Resolver.keyword
  split
  · exact follows.mapCurrent inside silent fun recalls => recalls.conjunction kind
  · exact follows.boundary inside separates other unnamed
  · exact follows.mapCurrent inside silent fun recalls => recalls.between kind
  · contradiction
  · next conjunction disjunction between _ =>
      rw [beq_false_of_ne disjunction, Bool.false_or] at separates
      split
      · next clause =>
          rw [follows.openClause_eq]
          exact follows.boundary inside (separates.trans clause) other unnamed
      · next clause =>
          rw [Bool.eq_false_iff.mpr clause] at separates
          refine follows.quiet inside ⟨separates, ?_, ?_⟩ unnamed
          · simpa [kind] using conjunction
          · simpa [kind] using between

theorem openGroup (follows : Follows resolver outline (token :: tokens)) (span : Span) :
    Follows (resolver.openGroup span) ⟨[], ⟨outline.members, token⟩ :: outline.enclosing⟩
      tokens := by
  have recalls := follows.traces.head
  have noRow : resolver.insertKind? = none := by
    unfold insertKind?
    rw [follows.insert]
    exact ite_self none
  unfold Resolver.openGroup
  rw [noRow, follows.calls, recalls.innerKind]
  cases called : endsInCallee outline.members with
  | true =>
      have started : (Group.start .call span).Recalls
          ⟨[], ⟨outline.members, token⟩ :: outline.enclosing⟩ :=
        .start_inner (if_pos called).symm span _
      exact ⟨.inner started follows.traces, follows.insert, rfl, nofun⟩
  | false =>
      have started : (Group.start .nested span).Recalls
          ⟨[], ⟨outline.members, token⟩ :: outline.enclosing⟩ :=
        .start_inner (if_neg (Bool.eq_false_iff.mp called)).symm span _
      -- The opening group takes the tuple before it, and there is none.
      have kept : { resolver.current with tuple := none } = resolver.current := by
        rw [← recalls.tuple]
      refine ⟨.inner started ?_, follows.insert, rfl, nofun⟩
      rw [kept]
      exact follows.traces

theorem closeGroup {members : List Member} {around : Enclosing} {enclosing : List Enclosing}
    (follows : Follows resolver ⟨members, around :: enclosing⟩ (token :: tokens))
    (closes : token.kind ≠ .leftParen) (span : Span) :
    ∃ next, resolver.closeGroup span = .ok next ∧
      Follows next ⟨.group around.opening members token :: around.before, enclosing⟩ tokens := by
  obtain ⟨current, groups, insert, callPending, parameters⟩ := resolver
  have calls := follows.calls.trans (follows.not_endsInCallee closes)
  cases follows.insert
  cases follows.traces with
  | inner recalls outer =>
      obtain ⟨parent, groups, rfl⟩ := outer.exists_cons
      refine ⟨_, rfl, ?_, ite_self none, calls, nofun⟩
      exact outer.add (outer.head.absorb recalls around.opening token)

theorem accept {depth : Nat} (follows : Follows resolver outline (token :: tokens))
    (unmarked : token.isMarker = false) (noInsert : token.kind ≠ .keyword .INSERT)
    (listed : token.kind = .comma → outline.inArguments = true)
    (inside : token.depthFrom outline.enclosing.length = some depth) :
    ∃ next, resolver.accept token (opensGroup tokens) = .ok next ∧
      Follows next (outline.step token (opensGroup tokens)) tokens := by
  obtain ⟨kind, text, span⟩ := token
  cases kind with
  | identifier | quotedIdentifier =>
      exact ⟨_, rfl, follows.name nofun ⟨rfl, nofun, nofun⟩ rfl⟩
  | keyword keyword =>
      exact ⟨_, rfl, follows.keyword rfl fun same => noInsert (congrArg _ same)⟩
  | operator | quoted | number =>
      exact ⟨_, rfl, follows.quiet nofun ⟨rfl, nofun, nofun⟩ rfl⟩
  | marker => cases unmarked
  | leftParen => exact ⟨_, rfl, follows.openGroup span⟩
  | rightParen =>
      obtain ⟨members, enclosing⟩ := outline
      cases enclosing with
      | nil => cases inside
      | cons around enclosing => exact follows.closeGroup nofun span
  | comma =>
      refine ⟨_, rfl, follows.mapCurrent nofun (endsInCallee_of_unnamed rfl) ?_⟩
      exact fun recalls => recalls.nextItem rfl (listed rfl)
  | semicolon =>
      refine ⟨_, rfl, ?_⟩
      rw [follows.endStatement_eq]
      exact follows.boundary nofun rfl nofun rfl

theorem marker (follows : Follows resolver outline (token :: tokens))
    (marked : token.isMarker = true) (parameters : List Parameter) :
    Follows { resolver with parameters := parameters }
      (outline.step token (opensGroup tokens)) tokens := by
  have kind : token.kind = .marker := eq_of_beq marked
  obtain ⟨_, text, span⟩ := token
  cases kind
  have read : Follows resolver
      (outline.add (.token ⟨.marker, text, span⟩ (opensGroup tokens))) tokens :=
    follows.quiet nofun ⟨rfl, nofun, nofun⟩ rfl
  exact ⟨read.traces, read.insert, read.calls, read.opens⟩

theorem finish (follows : Follows resolver outline []) (top : outline.enclosing.length = 0) :
    resolver.finish = .ok resolver.parameters := by
  obtain ⟨current, outer, insert, callPending, parameters⟩ := resolver
  obtain ⟨members, enclosing⟩ := outline
  cases List.length_eq_zero_iff.mp top
  cases follows.traces
  rfl

theorem outcome (follows : Follows resolver outline tokens)
    (noInsert : ∀ token ∈ tokens, token.kind ≠ .keyword .INSERT)
    (listed : ∀ site ∈ sites outline tokens, site.token.kind = .comma →
      site.outline.inArguments = true)
    (balanced : depthAfter outline.enclosing.length tokens = some 0) :
    resolver.run tokens >>= Resolver.finish =
      (resolver.parameters ++ ·) <$>
        Site.bindAll resolver.parameters.length (markerSites outline tokens) := by
  -- The parameters made up to here are those in front of the markers that are still to come.
  induction tokens generalizing resolver outline with
  | nil =>
      change resolver.finish = .ok (resolver.parameters ++ [])
      rw [List.append_nil]
      exact follows.finish (Option.some.inj balanced)
  | cons token tokens ih =>
      obtain ⟨depth, inside, balanced⟩ := Option.bind_eq_some_iff.mp balanced
      have deep := Outline.length_enclosing_step (opensGroup tokens) inside
      rw [← deep] at balanced
      have noInsertLater := fun later member => noInsert later (List.mem_cons_of_mem token member)
      have listedLater := fun site member => listed site (List.mem_cons_of_mem _ member)
      cases marked : token.isMarker with
      | false =>
          obtain ⟨next, accepted, follows⟩ := follows.accept marked
            (noInsert token List.mem_cons_self) (listed _ List.mem_cons_self) inside
          rw [run_cons_of_ok accepted, ih follows noInsertLater listedLater balanced,
            parameters_accept marked accepted, markerSites_cons_of_not_isMarker marked]
      | true =>
          rw [markerSites_cons_of_isMarker marked]
          have accepted : resolver.accept token (opensGroup tokens) = resolver.marker token.span :=
            accept_of_isMarker marked
          unfold Resolver.marker at accepted
          rw [follows.column?] at accepted
          cases found : outline.column? with
          | none =>
              rw [found] at accepted
              rw [run_cons_of_error accepted, Site.bindAll_cons_of_none found]
              rfl
          | some column =>
              rw [found] at accepted
              rw [run_cons_of_ok accepted, Site.bindAll_cons_of_some found,
                ih (follows.marker marked _) noInsertLater listedLater balanced,
                List.length_append, List.length_singleton, Functor.map_map]
              simp only [List.append_assoc, List.singleton_append]

theorem initial (tokens : List Token) : Follows .initial .top tokens :=
  ⟨.top (.start_top _), rfl, rfl, nofun⟩

end Follows

end Resolver

/-- A marker is bound to the nearest column that a scan back from it comes upon, in its own
group or in those around it. -/
theorem resolve_scans_backward {text : String} {tokens : List Token}
    (tokenized : tokenize text = .ok tokens) (balanced : Balanced tokens)
    (noInsert : ∀ token ∈ tokens, token.kind ≠ .keyword .INSERT)
    (listed : ∀ site ∈ sites .top tokens, site.token.kind = .comma →
      site.outline.inArguments = true) :
    resolve text = Site.bindAll 0 (markerSites .top tokens) ∧
      (sites .top tokens).map Site.token = tokens ∧
      ∀ site ∈ sites .top tokens, site.outline.tokens ++ [site.token] <+: tokens := by
  refine ⟨?_, map_token_sites .top tokens, fun site => tokens_of_mem_sites⟩
  rw [resolve_of_tokenize tokenized, resolveTokens,
    (Resolver.Follows.initial tokens).outcome noInsert listed balanced]
  exact id_map _

/-- Within the arguments nothing is left before the third marker, and so it looks outside. -/
theorem resolve_scans_backward_out_of_call :
    resolve "c BETWEEN ? AND ? AND x < f((d), ?)" =
      .ok [⟨0, "C", ⟨10, 11⟩⟩, ⟨1, "C", ⟨16, 17⟩⟩, ⟨2, "X", ⟨33, 34⟩⟩] := by
  have tokenized : tokenize "c BETWEEN ? AND ? AND x < f((d), ?)" =
      .ok [⟨.identifier, "c", ⟨0, 1⟩⟩, ⟨.keyword .BETWEEN, "BETWEEN", ⟨2, 9⟩⟩,
        ⟨.marker, "?", ⟨10, 11⟩⟩, ⟨.keyword .AND, "AND", ⟨12, 15⟩⟩, ⟨.marker, "?", ⟨16, 17⟩⟩,
        ⟨.keyword .AND, "AND", ⟨18, 21⟩⟩, ⟨.identifier, "x", ⟨22, 23⟩⟩,
        ⟨.operator, "<", ⟨24, 25⟩⟩, ⟨.identifier, "f", ⟨26, 27⟩⟩, ⟨.leftParen, "(", ⟨27, 28⟩⟩,
        ⟨.leftParen, "(", ⟨28, 29⟩⟩, ⟨.identifier, "d", ⟨29, 30⟩⟩, ⟨.rightParen, ")", ⟨30, 31⟩⟩,
        ⟨.comma, ",", ⟨31, 32⟩⟩, ⟨.marker, "?", ⟨33, 34⟩⟩, ⟨.rightParen, ")", ⟨34, 35⟩⟩] := by
    cbv
  exact (resolve_scans_backward tokenized (by decide) (by decide) (by decide)).1.trans (by cbv)

end BindStream
