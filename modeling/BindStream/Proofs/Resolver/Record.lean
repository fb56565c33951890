import BindStream.Proofs.Group
import BindStream.Proofs.Resolver.Outline
import BindStream.Proofs.Resolver.Sight
import BindStream.Proofs.Token.Depth

namespace BindStream

/-! What groups keep of the tokens in them, in any statement: the boundaries and the commas, and
whether several items in parentheses stand before the next ones. -/

/-- The number of commas among the members themselves. -/
def commas : List Member → Nat
  | [] => 0
  | .group _ _ _ :: before => commas before
  | .token token _ :: before => commas before + if token.kind = .comma then 1 else 0

/-- Whether a group of several items, and not the arguments of a function, has closed since the
last separator. -/
def holdsTuple : List Member → Bool
  | [] => false
  | .group _ inner _ :: before =>
    (decide (0 < commas inner) && !endsInCallee before) || holdsTuple before
  | .token token _ :: before => !isSeparator token before && holdsTuple before

section

variable {token : Token} {opens : Bool} {before : List Member}

theorem commas_of_other (other : token.kind ≠ .comma) :
    commas (.token token opens :: before) = commas before := by
  rw [commas, if_neg other]
  rfl

theorem commas_of_comma (comma : token.kind = .comma) :
    commas (.token token opens :: before) = commas before + 1 := by
  rw [commas, if_pos comma]

theorem holdsTuple_of_not_separator (free : isSeparator token before = false) :
    holdsTuple (.token token opens :: before) = holdsTuple before := by
  rw [holdsTuple, free]
  rfl

theorem Token.Quiet.not_comma (quiet : token.Quiet) : token.kind ≠ .comma := by
  intro comma
  have separates := quiet.1
  rw [Token.separates, comma] at separates
  cases separates

end

namespace Group

/-- What a group has kept of the members that came to it since `start`. -/
structure Records (start group : Group) (members : List Member) : Prop where
  kind : group.kind = start.kind
  pending : group.betweenPending = pendingBetween members
  bounded : group.bounded = (boundedBy members || start.bounded)
  item : group.item = start.item + commas members
  tuple : group.kind ≠ .root → group.tuple ≠ none → holdsTuple members = true

namespace Records

variable {start group inner : Group} {members : List Member} {token : Token} {opens : Bool}

theorem begin (free : start.betweenPending = false) (tuple : start.tuple = none) :
    start.Records start [] :=
  ⟨rfl, free, rfl, rfl, fun _ held => absurd tuple held⟩

theorem dropTuple (records : start.Records group members) :
    start.Records { group with tuple := none } members :=
  { records with tuple := fun _ held => absurd rfl held }

theorem quiet (records : start.Records group members) (quiet : token.Quiet) :
    start.Records group (.token token opens :: members) where
  kind := records.kind
  pending := records.pending.trans quiet.pendingBetween.symm
  bounded := records.bounded.trans (congrArg (· || _) quiet.boundedBy.symm)
  item := by rw [commas_of_other quiet.not_comma, records.item]
  tuple := by
    rw [holdsTuple_of_not_separator quiet.not_separator]
    exact records.tuple

theorem push {column : String} (records : start.Records group members) (quiet : token.Quiet) :
    start.Records (group.push column) (.token token opens :: members) :=
  { records.quiet quiet with tuple := fun _ held => absurd rfl held }

theorem boundary (records : start.Records group members)
    (separator : isSeparator token members = true) (other : token.kind ≠ .comma) :
    start.Records group.boundary (.token token opens :: members) where
  kind := records.kind
  pending := (pendingBetween_of_separator separator).symm
  bounded := by
    rw [boundedBy, separator, bne, beq_false_of_ne other]
    rfl
  item := by
    rw [commas_of_other other]
    exact records.item
  tuple := fun _ held => absurd rfl held

theorem nextItem (records : start.Records group members) (comma : token.kind = .comma) :
    start.Records group.nextItem (.token token opens :: members) where
  kind := records.kind
  pending := by
    refine (pendingBetween_of_separator ?_).symm
    rw [isSeparator, Token.separates, comma]
    rfl
  bounded := by
    rw [boundedBy, comma]
    exact records.bounded
  item := by
    rw [commas_of_comma comma, ← Nat.add_assoc, ← records.item]
    rfl
  tuple := fun _ held => absurd rfl held

theorem conjunction (records : start.Records group members)
    (conjunct : token.kind = .keyword .AND) :
    start.Records group.conjunction (.token token opens :: members) := by
  have separator : isSeparator token members = !pendingBetween members := by
    rw [isSeparator, Token.separates, conjunct]
    rfl
  have other : token.kind ≠ .comma := by simp [conjunct]
  cases pending : pendingBetween members with
  | true =>
      have free : isSeparator token members = false := by rw [separator, pending]; rfl
      rw [conjunction_of_pending group (records.pending.trans pending)]
      exact {
        kind := records.kind
        pending := by
          rw [pendingBetween, conjunct]
          rfl
        bounded := by
          rw [boundedBy, free, Bool.and_false]
          exact records.bounded
        item := by
          rw [commas_of_other other]
          exact records.item
        tuple := by
          rw [holdsTuple_of_not_separator free]
          exact records.tuple }
  | false =>
      rw [conjunction_of_not_pending group (records.pending.trans pending)]
      exact records.boundary (by rw [separator, pending]; rfl) other

theorem between (records : start.Records group members)
    (between : token.kind = .keyword .BETWEEN) :
    start.Records { group with betweenPending := true } (.token token opens :: members) := by
  have free : isSeparator token members = false := by
    rw [isSeparator, Token.separates, between]
    rfl
  have other : token.kind ≠ .comma := by simp [between]
  exact {
    kind := records.kind
    pending := by
      rw [pendingBetween, between]
      rfl
    bounded := by
      rw [boundedBy, free, Bool.and_false]
      exact records.bounded
    item := by
      rw [commas_of_other other]
      exact records.item
    tuple := by
      rw [holdsTuple_of_not_separator free]
      exact records.tuple }

/-- The items of a group that closes stand for a tuple unless they are arguments. -/
theorem absorb {innerMembers : List Member} {kind : GroupKind} {span : Span}
    (records : start.Records group members)
    (closes : (Group.start kind span).Records inner innerMembers)
    (called : group.kind ≠ .root → endsInCallee members = true → inner.kind = .call)
    (opening closing : Token) :
    start.Records (group.absorb inner) (.group opening innerMembers closing :: members) := by
  have counted : inner.item = commas innerMembers := closes.item.trans (Nat.zero_add _)
  rw [absorb_eq]
  refine ⟨records.kind, records.pending, records.bounded, records.item, ?_⟩
  dsimp only
  intro nested held
  rw [holdsTuple, Bool.or_eq_true, Bool.and_eq_true]
  by_cases several : 0 < inner.item ∧ inner.kind ≠ .call
  · have uncalled : endsInCallee members = false :=
      Bool.eq_false_iff.mpr fun callee => several.2 (called nested callee)
    rw [counted] at several
    exact .inl ⟨decide_eq_true several.1, by rw [uncalled]; rfl⟩
  · rw [if_neg several] at held
    have kept : group.tuple ≠ none := by
      intro nothing
      rw [nothing, ite_self] at held
      exact held rfl
    exact .inr (records.tuple nested kept)

end Records

end Group

/-- Groups, innermost first, that have kept what lies in an outline since `start`, which itself is
above some others. -/
inductive Stacked (base : List Group) (start : Group) : List Group → Outline → Prop
  | bottom {group : Group} {members : List Member} (records : start.Records group members) :
      Stacked base start (group :: base) ⟨members, []⟩
  | inner {group parent : Group} {groups : List Group} {members : List Member}
      {around : Enclosing} {enclosing : List Enclosing} {kind : GroupKind} {span : Span}
      (records : (Group.start kind span).Records group members) (nested : group.kind ≠ .root)
      (called : parent.kind ≠ .root → endsInCallee around.before = true → group.kind = .call)
      (noList : base ≠ [] → group.kind ≠ .columnList)
      (outer : Stacked base start (parent :: groups) ⟨around.before, enclosing⟩) :
      Stacked base start (group :: parent :: groups) ⟨members, around :: enclosing⟩

namespace Stacked

variable {base : List Group} {start group changed : Group} {outer : List Group}
variable {outline : Outline}

theorem map_head (stacked : Stacked base start (group :: outer) outline) {members : List Member}
    (records : ∀ first : Group, first.Records group outline.members →
      first.Records changed members) :
    Stacked base start (changed :: outer) { outline with members := members } := by
  cases stacked with
  | bottom kept => exact .bottom (records start kept)
  | inner kept nested called noList around =>
      have kind : changed.kind = group.kind := (records _ kept).kind.trans kept.kind.symm
      rw [← kind] at nested called noList
      exact .inner (records _ kept) nested called noList around

theorem outer_ne_nil (stacked : Stacked base start (group :: outer) outline) (below : base ≠ []) :
    outer ≠ [] := by
  cases stacked with
  | bottom => exact below
  | inner => exact List.cons_ne_nil _ _

theorem root_of_outer_eq_nil (stacked : Stacked base start [group] outline)
    (root : base = [] → start.kind = .root) : base = [] ∧ group.kind = .root := by
  cases stacked with
  | bottom records => exact ⟨rfl, records.kind.trans (root rfl)⟩

end Stacked

/-- The outline behind some tokens that `rest` follows. -/
def Outline.after (rest : List Token) (outline : Outline) : List Token → Outline
  | [] => outline
  | token :: tokens =>
    Outline.after rest (outline.step token (Resolver.opensGroup (tokens ++ rest))) tokens

/-- The outline behind the tokens that a statement begins with. -/
def Outline.behind (before : List Token) : Outline := Outline.top.after [] before

namespace Resolver

theorem innerKind_ne (group : Group) :
    innerKind group ≠ .root ∧ innerKind group ≠ .columnList := by
  unfold innerKind
  split <;> exact ⟨nofun, nofun⟩

theorem insertKind?_ne_root {resolver : Resolver} {kind : GroupKind}
    (row : resolver.insertKind? = some kind) : kind ≠ .root := by
  unfold insertKind? at row
  repeat' split at row
  all_goals cases row <;> nofun

/-- A resolver above some groups that has read what lies in an outline since `start` and comes to
some tokens. With groups below it, the `INSERT` around them stays as it is. -/
structure Keeps (base : List Group) (start : Group) (insert : Option InsertHead)
    (resolver : Resolver) (outline : Outline) (tokens : List Token) : Prop where
  stacked : Stacked base start resolver.groups outline
  insert : base ≠ [] → resolver.insert = insert
  calls : resolver.callPending = endsInCallee outline.members
  opens : endsInCallee outline.members = true → opensGroup tokens = true

namespace Keeps

variable {base : List Group} {start : Group} {insert : Option InsertHead} {resolver : Resolver}
variable {outline : Outline} {token : Token} {tokens : List Token} {opens : Bool}

theorem not_endsInCallee (keeps : Keeps base start insert resolver outline (token :: tokens))
    (other : token.kind ≠ .leftParen) : endsInCallee outline.members = false :=
  Bool.eq_false_iff.mpr fun called => other (eq_of_beq (keeps.opens called))

theorem not_atRoot (keeps : Keeps base start insert resolver outline tokens) (below : base ≠ []) :
    resolver.atRoot = false :=
  List.isEmpty_eq_false_iff.mpr (keeps.stacked.outer_ne_nil below)

/-- With all parentheses closed, the groups are those that there were at the start. -/
theorem at_bottom (keeps : Keeps base start insert resolver outline tokens)
    (closed : outline.enclosing.length = 0) :
    resolver.outer = base ∧ start.Records resolver.current outline.members := by
  obtain ⟨current, outer, insert, callPending, parameters⟩ := resolver
  cases keeps.stacked with
  | bottom records => exact ⟨rfl, records⟩
  | inner => cases closed

/-- A token that is a member of the innermost group and has no effect on the others. -/
theorem add {next : Resolver} (keeps : Keeps base start insert resolver outline (token :: tokens))
    (inside : token.kind ≠ .leftParen)
    (silent : endsInCallee (.token token opens :: outline.members) = false)
    (outer : next.outer = resolver.outer) (calls : next.callPending = resolver.callPending)
    (kept : base ≠ [] → next.insert = resolver.insert)
    (records : ∀ first : Group, first.Records resolver.current outline.members →
      first.Records next.current (.token token opens :: outline.members)) :
    Keeps base start insert next (outline.add (.token token opens)) tokens where
  stacked := by
    rw [groups, outer]
    exact keeps.stacked.map_head records
  insert := fun below => (kept below).trans (keeps.insert below)
  calls := (calls.trans (keeps.calls.trans (keeps.not_endsInCallee inside))).trans silent.symm
  opens := fun called => absurd called (Bool.eq_false_iff.mp silent)

theorem quiet (keeps : Keeps base start insert resolver outline (token :: tokens))
    (inside : token.kind ≠ .leftParen) (quiet : token.Quiet) (unnamed : token.columnName = none) :
    Keeps base start insert resolver (outline.add (.token token opens)) tokens :=
  keeps.add inside (endsInCallee_of_unnamed unnamed) rfl rfl (fun _ => rfl)
    fun _ records => records.quiet quiet

theorem name {column : String}
    (keeps : Keeps base start insert resolver outline (token :: tokens))
    (inside : token.kind ≠ .leftParen) (quiet : token.Quiet)
    (named : token.columnName = some column) :
    Keeps base start insert (resolver.name token (opensGroup tokens))
      (outline.add (.token token (opensGroup tokens))) tokens := by
  cases opens : opensGroup tokens with
  | true =>
      exact {
        stacked := keeps.stacked.map_head fun _ records => records.quiet quiet
        insert := keeps.insert
        calls := by
          rw [Outline.add, endsInCallee, named]
          rfl
        opens := fun _ => opens }
  | false =>
      unfold Resolver.name
      rw [named]
      exact keeps.add inside rfl rfl rfl (fun _ => rfl) fun _ records => records.push quiet

theorem openClause (keeps : Keeps base start insert resolver outline (token :: tokens))
    {keyword : Keyword} (kind : token.kind = .keyword keyword)
    (opensClause : keyword.opensClause = true) :
    Keeps base start insert (resolver.openClause keyword) (outline.add (.token token opens))
      tokens := by
  have inside : token.kind ≠ .leftParen := by simp [kind]
  have other : token.kind ≠ .comma := by simp [kind]
  have unnamed : token.columnName = none := by rw [Token.columnName, kind]
  have separator : isSeparator token outline.members = true := by
    simp [isSeparator, Token.separates, kind, opensClause]
  have bounded (first : Group) (records : first.Records resolver.current outline.members) :
      first.Records resolver.current.boundary (.token token opens :: outline.members) :=
    records.boundary separator other
  have silent : endsInCallee (.token token opens :: outline.members) = false :=
    endsInCallee_of_unnamed unnamed
  unfold Resolver.openClause
  cases root : resolver.atRoot with
  | true =>
      refine keeps.add inside silent rfl rfl (fun below => ?_) bounded
      rw [keeps.not_atRoot below] at root
      cases root
  | false => exact keeps.add inside silent rfl rfl (fun _ => rfl) bounded

theorem keyword {keyword : Keyword}
    (keeps : Keeps base start insert resolver outline (token :: tokens))
    (kind : token.kind = .keyword keyword) :
    Keeps base start insert (resolver.keyword keyword) (outline.add (.token token opens))
      tokens := by
  have inside : token.kind ≠ .leftParen := by simp [kind]
  have other : token.kind ≠ .comma := by simp [kind]
  have unnamed : token.columnName = none := by rw [Token.columnName, kind]
  have silent : endsInCallee (.token token opens :: outline.members) = false :=
    endsInCallee_of_unnamed unnamed
  have separates : token.separates = (keyword == .OR || keyword.opensClause) := by
    rw [Token.separates, kind]
  have quietly (next : Resolver) (current : next.current = resolver.current)
      (outer : next.outer = resolver.outer) (calls : next.callPending = resolver.callPending)
      (kept : base ≠ [] → next.insert = resolver.insert) (quiet : token.Quiet) :
      Keeps base start insert next (outline.add (.token token opens)) tokens :=
    keeps.add inside silent outer calls kept fun _ records => current ▸ records.quiet quiet
  unfold Resolver.keyword
  split
  · exact keeps.add inside silent rfl rfl (fun _ => rfl) fun _ records => records.conjunction kind
  · refine keeps.add inside silent rfl rfl (fun _ => rfl) fun _ records => ?_
    refine records.boundary ?_ other
    rw [isSeparator, separates]
    rfl
  · exact keeps.add inside silent rfl rfl (fun _ => rfl) fun _ records => records.between kind
  · have quiet : token.Quiet := ⟨separates, by simp [kind], by simp [kind]⟩
    split
    · next root =>
        refine quietly _ rfl rfl rfl (fun below => ?_) quiet
        rw [keeps.not_atRoot below] at root
        cases root
    · exact quietly _ rfl rfl rfl (fun _ => rfl) quiet
  · next conjunction disjunction between _ =>
      rw [beq_false_of_ne disjunction, Bool.false_or] at separates
      split
      · next clause => exact keeps.openClause kind clause
      · next clause =>
          rw [Bool.eq_false_iff.mpr clause] at separates
          exact keeps.quiet inside
            ⟨separates, by simpa [kind] using conjunction, by simpa [kind] using between⟩ unnamed

theorem endStatement (keeps : Keeps base start insert resolver outline (token :: tokens))
    (ends : token.kind = .semicolon) :
    Keeps base start insert resolver.endStatement (outline.add (.token token opens)) tokens := by
  have inside : token.kind ≠ .leftParen := by simp [ends]
  have silent : endsInCallee (.token token opens :: outline.members) = false :=
    endsInCallee_of_unnamed (by rw [Token.columnName, ends])
  have bounded (first : Group) (records : first.Records resolver.current outline.members) :
      first.Records resolver.current.boundary (.token token opens :: outline.members) := by
    refine records.boundary ?_ (by simp [ends])
    rw [isSeparator, Token.separates, ends]
    rfl
  unfold Resolver.endStatement
  cases root : resolver.atRoot with
  | true =>
      refine keeps.add inside silent rfl rfl (fun below => ?_) bounded
      rw [keeps.not_atRoot below] at root
      cases root
  | false => exact keeps.add inside silent rfl rfl (fun _ => rfl) bounded

theorem openGroup (keeps : Keeps base start insert resolver outline (token :: tokens))
    (root : base = [] → start.kind = .root) (span : Span) :
    Keeps base start insert (resolver.openGroup span)
      ⟨[], ⟨outline.members, token⟩ :: outline.enclosing⟩ tokens := by
  have fresh (kind : GroupKind) : (Group.start kind span).Records (.start kind span) [] :=
    .begin rfl rfl
  unfold Resolver.openGroup
  cases row : resolver.insertKind? with
  | some kind =>
      -- Only outside all parentheses a group has a kind of its own in an `INSERT`.
      obtain ⟨outermost, isRoot⟩ : base = [] ∧ resolver.current.kind = .root := by
        obtain ⟨current, outer, head, callPending, parameters⟩ := resolver
        cases outer with
        | nil => exact keeps.stacked.root_of_outer_eq_nil root
        | cons => cases row
      refine ⟨.inner (fresh kind) (insertKind?_ne_root row) ?_ ?_ keeps.stacked, keeps.insert, rfl, nofun⟩
      · exact fun nested => absurd isRoot nested
      · exact fun below => absurd outermost below
  | none =>
      dsimp only
      rw [keeps.calls]
      cases called : endsInCallee outline.members with
      | true =>
          refine ⟨.inner (fresh .call) nofun ?_ ?_ keeps.stacked, keeps.insert, rfl, nofun⟩
          · exact fun _ _ => rfl
          · exact fun _ => nofun
      | false =>
          have dropped : Stacked base start
              ({ resolver.current with tuple := none } :: resolver.outer) outline :=
            keeps.stacked.map_head fun _ records => records.dropTuple
          refine ⟨.inner (fresh _) (innerKind_ne _).1 ?_ ?_ dropped, keeps.insert, rfl, nofun⟩
          · intro _ callee
            rw [called] at callee
            cases callee
          · exact fun _ => (innerKind_ne _).2

theorem closeGroup {members : List Member} {around : Enclosing} {enclosing : List Enclosing}
    (keeps : Keeps base start insert resolver ⟨members, around :: enclosing⟩ (token :: tokens))
    (closes : token.kind ≠ .leftParen) (span : Span) :
    ∃ next, resolver.closeGroup span = .ok next ∧
      Keeps base start insert next ⟨.group around.opening members token :: around.before, enclosing⟩
        tokens := by
  obtain ⟨current, groups, head, callPending, parameters⟩ := resolver
  have calls := keeps.calls.trans (keeps.not_endsInCallee closes)
  cases keeps.stacked with
  | @inner _ parent groups _ _ _ _ _ records nested called noList outer =>
      refine ⟨_, rfl, ?_, fun below => ?_, calls, nofun⟩
      · exact outer.map_head fun _ before =>
          before.absorb records called around.opening token
      · dsimp only
        rw [if_neg (noList below)]
        exact keeps.insert below

theorem pass {depth : Nat} (keeps : Keeps base start insert resolver outline (token :: tokens))
    (root : base = [] → start.kind = .root)
    (inside : token.depthFrom outline.enclosing.length = some depth) :
    Keeps base start insert (resolver.pass token (opensGroup tokens))
      (outline.step token (opensGroup tokens)) tokens := by
  obtain ⟨kind, text, span⟩ := token
  cases kind with
  | identifier | quotedIdentifier => exact keeps.name nofun ⟨rfl, nofun, nofun⟩ rfl
  | keyword keyword => exact keeps.keyword rfl
  | operator | quoted | number => exact keeps.quiet nofun ⟨rfl, nofun, nofun⟩ rfl
  | marker =>
      have read : Keeps base start insert resolver
          (outline.add (.token ⟨.marker, text, span⟩ (opensGroup tokens))) tokens :=
        keeps.quiet nofun ⟨rfl, nofun, nofun⟩ rfl
      obtain ⟨parameters, passed⟩ : ∃ parameters,
          resolver.pass ⟨.marker, text, span⟩ (opensGroup tokens) =
            { resolver with parameters := parameters } := pass_of_isMarker rfl
      rw [passed]
      exact ⟨read.stacked, read.insert, read.calls, read.opens⟩
  | leftParen => exact keeps.openGroup root span
  | rightParen =>
      obtain ⟨members, enclosing⟩ := outline
      cases enclosing with
      | nil => cases inside
      | cons around enclosing =>
          obtain ⟨next, closed, kept⟩ := keeps.closeGroup nofun span
          have accepted : resolver.accept ⟨.rightParen, text, span⟩ (opensGroup tokens) =
              .ok next := closed
          rw [pass_of_ok accepted]
          exact kept
  | comma =>
      exact keeps.add nofun (endsInCallee_of_unnamed rfl) rfl rfl (fun _ => rfl)
        fun _ records => records.nextItem rfl
  | semicolon => exact keeps.endStatement rfl

/-- What the groups keep holds behind any tokens that close no more parentheses than are open. -/
theorem skimBefore {rest : List Token} {depth : Nat}
    (keeps : Keeps base start insert resolver outline (tokens ++ rest))
    (root : base = [] → start.kind = .root)
    (inside : depthAfter outline.enclosing.length tokens = some depth) :
    Keeps base start insert (Resolver.skimBefore rest resolver tokens)
      (outline.after rest tokens) rest ∧
    (outline.after rest tokens).enclosing.length = depth := by
  induction tokens generalizing resolver outline with
  | nil => exact ⟨keeps, Option.some.inj inside⟩
  | cons token tokens ih =>
      obtain ⟨next, stepped, later⟩ := Option.bind_eq_some_iff.mp inside
      rw [← Outline.length_enclosing_step (opensGroup (tokens ++ rest)) stepped] at later
      exact ih (keeps.pass root stepped) later

end Keeps

variable {before rest : List Token} {depth : Nat}

theorem outline_after_congr {others : List Token} (outline : Outline)
    (same : opensGroup rest = opensGroup others) :
    outline.after rest before = outline.after others before := by
  induction before generalizing outline with
  | nil => rfl
  | cons token before ih =>
      rw [Outline.after, Outline.after, opensGroup_append_congr same]
      exact ih _

theorem keeps_initial (tokens : List Token) :
    Keeps [] (.start .root default) none initial .top tokens :=
  ⟨.bottom (.begin rfl rfl), fun _ => rfl, rfl, nofun⟩

/-- What a resolver has kept behind the tokens that a statement begins with. -/
theorem keeps_skim (balanced : depthAfter 0 before = some depth) :
    Keeps [] (.start .root default) none (initial.skim before) (.behind before) [] ∧
      (Outline.behind before).enclosing.length = depth := by
  rw [skim]
  exact (keeps_initial (before ++ [])).skimBefore (fun _ => rfl) balanced

end Resolver

end BindStream
