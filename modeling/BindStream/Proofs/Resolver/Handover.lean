import Mathlib
import BindStream.Proofs.Group
import BindStream.Proofs.Resolver.Run
import BindStream.Proofs.Token.Nesting

namespace BindStream

open Resolver

/-! What a group hands over when it closes: the first column in it, and that of each of its items. -/

/-- The column that a token names; the name of a function is none. -/
def Token.candidate (token : Token) (callFollows : Bool) : Option String :=
  if callFollows then none else token.columnName

/-- The first column that some tokens name, in parentheses or not. -/
def firstColumnIn : List Token → Option String
  | [] => none
  | token :: tokens => (token.candidate (opensGroup tokens)).or (firstColumnIn tokens)

/-- The first column of each item. -/
def itemColumns (tokens : List Token) : Columns := (itemsOf tokens).map firstColumnIn

theorem modifyHead_none_or (columns : Columns) : columns.modifyHead none.or = columns := by
  cases columns <;> simp

theorem modifyHead_or_or (columns : Columns) (first second : Option String) :
    (columns.modifyHead second.or).modifyHead first.or = columns.modifyHead (first.or second).or := by
  cases columns <;> simp [Option.or_assoc]

section

variable {token opening closing : Token} {tokens first second content later : List Token}

theorem candidate_of_unnamed (unnamed : token.columnName = none) (callFollows : Bool) :
    token.candidate callFollows = none := by
  rw [Token.candidate, unnamed, ite_self]

theorem firstColumnIn_append (ends : opensGroup second = false) :
    firstColumnIn (first ++ second) = (firstColumnIn first).or (firstColumnIn second) := by
  induction first with
  | nil => rfl
  | cons token first ih =>
      rw [List.cons_append, firstColumnIn, opensGroup_append ends, ih, firstColumnIn,
        Option.or_assoc]

theorem firstColumnIn_group (opens : opening.kind = .leftParen)
    (closes : closing.kind = .rightParen) :
    firstColumnIn (opening :: (content ++ closing :: later)) =
      (firstColumnIn content).or (firstColumnIn later) := by
  have openingUnnamed : opening.columnName = none := by rw [Token.columnName, opens]
  have closingUnnamed : closing.columnName = none := by rw [Token.columnName, closes]
  have ends : opensGroup (closing :: later) = false := opensGroup_of_kind closes rfl
  rw [firstColumnIn, candidate_of_unnamed openingUnnamed, Option.none_or, firstColumnIn_append ends,
    firstColumnIn, candidate_of_unnamed closingUnnamed, Option.none_or]

/-- The first item begins as the tokens do, unless it is empty. -/
theorem opensGroup_of_itemsFrom {depth : Nat} {item : List Token} {items : List (List Token)}
    (parts : itemsFrom depth tokens = item :: items) : opensGroup item = opensGroup tokens := by
  cases tokens with
  | nil =>
      cases parts
      rfl
  | cons token tokens =>
      rw [itemsFrom] at parts
      split at parts
      · next comma =>
          cases parts
          exact (opensGroup_of_kind comma.2 rfl).symm
      · obtain ⟨begun, _, same⟩ := exists_itemsFrom ((token.depthFrom depth).getD 0) tokens
        rw [same, List.modifyHead_cons] at parts
        cases parts
        rfl

theorem itemColumns_comma (comma : token.kind = .comma) :
    itemColumns (token :: tokens) = none :: itemColumns tokens := by
  rw [itemColumns, itemsOf, itemsFrom_comma comma]
  rfl

theorem itemColumns_token (opensNone : token.kind ≠ .leftParen)
    (closesNone : token.kind ≠ .rightParen) (other : token.kind ≠ .comma) :
    itemColumns (token :: tokens) =
      (itemColumns tokens).modifyHead (token.candidate (opensGroup tokens)).or := by
  obtain ⟨item, items, parts⟩ := exists_itemsFrom 0 tokens
  rw [itemColumns, itemColumns, itemsOf, itemsOf,
    itemsFrom_token opensNone closesNone (fun split => other split.2), parts,
    List.modifyHead_cons, List.map_cons, List.map_cons, List.modifyHead_cons, firstColumnIn,
    opensGroup_of_itemsFrom parts]

theorem itemColumns_group (opens : opening.kind = .leftParen) (inside : Nested content)
    (closes : closing.kind = .rightParen) :
    itemColumns (opening :: (content ++ closing :: later)) =
      (itemColumns later).modifyHead (firstColumnIn content).or := by
  obtain ⟨item, items, parts⟩ := exists_itemsFrom 0 later
  rw [itemColumns, itemColumns, itemsOf, itemsOf, itemsFrom_group opens inside closes, parts,
    List.modifyHead_cons, List.map_cons, List.map_cons, List.modifyHead_cons,
    firstColumnIn_group opens closes]

end

/-! What a group has shown of its items: those that a comma has ended, and the current one. -/

namespace Group

/-- Where a group was opened, and what it keeps of the columns in it. -/
def tally (group : Group) : Span × Option String × Columns × Nat :=
  (group.opened, group.firstColumn, group.items, group.item)

/-- A group that has seen the first column `first`, the columns `ended` of the items before the
current one, and the column `slot` of that. -/
structure Shows (group : Group) (opened : Span) (first : Option String) (ended : Columns)
    (slot : Option String) : Prop where
  opened : group.opened = opened
  first : group.firstColumn = first
  item : group.item = ended.length
  columns : group.columns = ended ++ [slot]

/-- A group with no columns beyond its current item. -/
def InPlace (group : Group) : Prop := group.items.length ≤ group.item + 1

variable {group other inner : Group} {opened : Span} {first slot : Option String} {ended : Columns}

theorem tally_conjunction (group : Group) : group.conjunction.tally = group.tally := by
  unfold conjunction
  split <;> rfl

theorem columns_of_inPlace (inPlace : group.InPlace) : group.columns.length = group.item + 1 := by
  unfold InPlace at inPlace
  rw [columns, List.length_append, List.length_replicate]
  omega

theorem InPlace.shows (inPlace : group.InPlace) :
    ∃ ended slot, group.Shows group.opened group.firstColumn ended slot := by
  have length := columns_of_inPlace inPlace
  obtain ⟨ended, slot, same⟩ : ∃ ended slot, group.columns = ended ++ [slot] := by
    apply (List.eq_nil_or_concat' group.columns).resolve_left
    intro empty
    rw [empty] at length
    cases length
  refine ⟨ended, slot, rfl, rfl, ?_, same⟩
  rw [same, List.length_append] at length
  exact (Nat.succ.inj length).symm

namespace Shows

theorem inPlace (shows : group.Shows opened first ended slot) : group.InPlace := by
  have length := congrArg List.length shows.columns
  rw [Group.columns, List.length_append, List.length_append, List.length_replicate, List.length_singleton,
    ← shows.item] at length
  unfold InPlace
  omega

theorem congr (shows : group.Shows opened first ended slot) (same : other.tally = group.tally) :
    other.Shows opened first ended slot := by
  obtain ⟨sameOpened, sameFirst, sameItems, sameItem⟩ : other.opened = group.opened ∧
      other.firstColumn = group.firstColumn ∧ other.items = group.items ∧
        other.item = group.item := by
    simpa [tally] using same
  refine ⟨sameOpened.trans shows.opened, sameFirst.trans shows.first, sameItem.trans shows.item, ?_⟩
  rw [Group.columns, sameItems, sameItem]
  exact shows.columns

theorem start (kind : GroupKind) (opened : Span) :
    (Group.start kind opened).Shows opened none [] none := ⟨rfl, rfl, rfl, rfl⟩

theorem nextItem (shows : group.Shows opened first ended slot) :
    group.nextItem.Shows opened first (ended ++ [slot]) none where
  opened := shows.opened
  first := shows.first
  item := by
    rw [List.length_append, ← shows.item]
    rfl
  columns := by
    have room : group.item + 1 + 1 - group.items.length = group.item + 1 - group.items.length + 1 :=
      Nat.succ_sub shows.inPlace
    calc group.nextItem.columns
      _ = group.items ++ List.replicate (group.item + 1 + 1 - group.items.length) none := rfl
      _ = group.columns ++ [none] := by
        rw [room, List.replicate_succ', ← List.append_assoc]
        rfl
      _ = ended ++ [slot] ++ [none] := by rw [shows.columns]

theorem fill (shows : group.Shows opened first ended slot) (column : String) :
    group.items.fill group.item column = ended ++ [slot.or (some column)] := by
  have padded : group.items ++ List.replicate (group.item + 1 - group.items.length) none =
      ended ++ [slot] := shows.columns
  have current : (ended ++ [slot])[group.item]? = some slot := by
    rw [shows.item]
    exact List.getElem?_concat_length
  rw [Columns.fill, padded, current]
  cases slot with
  | none =>
      rw [if_pos rfl, shows.item, List.set_append_right _ _ (Nat.le_refl _), Nat.sub_self]
      rfl
  | some seen => exact if_neg (by simp)

theorem push (shows : group.Shows opened first ended slot) (column : String) :
    (group.push column).Shows opened (first.or (some column)) ended (slot.or (some column)) where
  opened := shows.opened
  first := congrArg (Option.or · (some column)) shows.first
  item := shows.item
  columns := by
    change group.items.fill group.item column ++ _ = _
    rw [shows.fill, List.append_right_eq_self, List.replicate_eq_nil_iff]
    change group.item + 1 - (group.items.fill group.item column).length = 0
    rw [shows.fill, List.length_append, shows.item]
    exact Nat.sub_self _

/-- A group that closes counts as its first column. -/
theorem absorb (shows : group.Shows opened first ended slot) (inner : Group) :
    (group.absorb inner).Shows opened (first.or inner.firstColumn) ended
      (slot.or inner.firstColumn) := by
  rw [absorb_eq]
  cases inner.firstColumn with
  | none =>
      simp only [Option.or_none]
      exact shows.congr rfl
  | some column => exact (shows.push column).congr rfl

end Shows

end Group

namespace Resolver

variable {resolver next : Resolver} {token opening closing : Token}
variable {tokens rest content : List Token} {callFollows : Bool} {span : Span}

/-! What each token does to the groups. -/

theorem tally_keyword (keyword : Keyword) :
    (resolver.keyword keyword).outer = resolver.outer ∧
      (resolver.keyword keyword).current.tally = resolver.current.tally := by
  unfold Resolver.keyword
  split
  · exact ⟨rfl, Group.tally_conjunction resolver.current⟩
  · exact ⟨rfl, rfl⟩
  · exact ⟨rfl, rfl⟩
  · split <;> exact ⟨rfl, rfl⟩
  · split
    · unfold openClause
      split <;> exact ⟨rfl, rfl⟩
    · exact ⟨rfl, rfl⟩

theorem tally_endStatement :
    resolver.endStatement.outer = resolver.outer ∧
      resolver.endStatement.current.tally = resolver.current.tally := by
  unfold endStatement
  split <;> exact ⟨rfl, rfl⟩

theorem openGroup_eq (resolver : Resolver) (span : Span) :
    ∃ kind tuple, resolver.openGroup span =
      resolver.enter { resolver.current with tuple := tuple } kind span := by
  unfold openGroup
  split
  · next kind _ => exact ⟨kind, resolver.current.tuple, rfl⟩
  · split
    · exact ⟨.call, resolver.current.tuple, rfl⟩
    · exact ⟨innerKind resolver.current, none, rfl⟩

theorem closeGroup_eq_ok (closed : resolver.closeGroup span = .ok next) :
    ∃ parent, resolver.outer = parent :: next.outer ∧
      next.current = parent.absorb resolver.current := by
  unfold closeGroup at closed
  split at closed
  · cases closed
  · next parent outer surrounded =>
      cases closed
      exact ⟨parent, surrounded, rfl⟩

theorem accept_of_opening (opens : token.kind = .leftParen) :
    resolver.accept token callFollows = .ok (resolver.openGroup token.span) := by
  simp only [accept, opens]

theorem accept_of_closing (closes : token.kind = .rightParen) :
    resolver.accept token callFollows = resolver.closeGroup token.span := by
  simp only [accept, closes]

theorem accept_of_comma (comma : token.kind = .comma) :
    resolver.accept token callFollows = .ok (resolver.mapCurrent Group.nextItem) := by
  simp only [accept, comma]

theorem accept_of_named {column : String} (named : token.columnName = some column) :
    resolver.accept token callFollows = .ok (resolver.name token callFollows) := by
  obtain ⟨kind, text, place⟩ := token
  cases kind with
  | identifier | quotedIdentifier => rfl
  | _ => cases named

theorem tally_accept (opensNone : token.kind ≠ .leftParen) (closesNone : token.kind ≠ .rightParen)
    (other : token.kind ≠ .comma) (unnamed : token.columnName = none)
    (accepted : resolver.accept token callFollows = .ok next) :
    next.outer = resolver.outer ∧ next.current.tally = resolver.current.tally := by
  obtain ⟨kind, text, place⟩ := token
  cases kind with
  | identifier | quotedIdentifier => cases unnamed
  | keyword keyword =>
      cases accepted
      exact tally_keyword keyword
  | marker =>
      obtain ⟨column, -, rfl⟩ := marker_eq_ok accepted
      exact ⟨rfl, rfl⟩
  | operator | quoted | number =>
      cases accepted
      exact ⟨rfl, rfl⟩
  | semicolon =>
      cases accepted
      exact tally_endStatement
  | comma => exact absurd rfl other
  | leftParen => exact absurd rfl opensNone
  | rightParen => exact absurd rfl closesNone

variable {opened : Span} {first slot : Option String} {ended : Columns}

/-- A token that is neither a parenthesis nor a comma belongs to the current item. -/
theorem accept_shows (opensNone : token.kind ≠ .leftParen) (closesNone : token.kind ≠ .rightParen)
    (other : token.kind ≠ .comma) (shows : resolver.current.Shows opened first ended slot)
    (accepted : resolver.accept token callFollows = .ok next) :
    next.outer = resolver.outer ∧
      next.current.Shows opened (first.or (token.candidate callFollows)) ended
        (slot.or (token.candidate callFollows)) := by
  cases named : token.columnName with
  | none =>
      rw [candidate_of_unnamed named, Option.or_none, Option.or_none]
      obtain ⟨outer, same⟩ := tally_accept opensNone closesNone other named accepted
      exact ⟨outer, shows.congr same⟩
  | some column =>
      cases (accept_of_named named).symm.trans accepted
      rw [Token.candidate, Resolver.name, named]
      cases callFollows with
      | true => simpa using shows
      | false => exact ⟨rfl, shows.push column⟩

/-- A run through a group: the group is entered, filled, and absorbed into the one around it. -/
theorem exists_of_runBefore_group {later : List Token} (opens : opening.kind = .leftParen)
    (closes : closing.kind = .rightParen)
    (ran : runBefore rest resolver (opening :: (content ++ closing :: later)) = .ok next) :
    ∃ kind tuple full parent left,
      runBefore (closing :: later ++ rest)
        (resolver.enter { resolver.current with tuple := tuple } kind opening.span) content =
          .ok full ∧
      full.outer = parent :: left.outer ∧ left.current = parent.absorb full.current ∧
      runBefore rest left later = .ok next := by
  obtain ⟨entered, accepted, ran⟩ := exists_of_runBefore_cons ran
  obtain ⟨kind, tuple, same⟩ := openGroup_eq resolver opening.span
  rw [accept_of_opening opens, same] at accepted
  cases accepted
  obtain ⟨full, filled, ran⟩ := exists_of_runBefore_append ran
  obtain ⟨left, closed, ran⟩ := exists_of_runBefore_cons ran
  rw [accept_of_closing closes] at closed
  obtain ⟨parent, surrounded, absorbed⟩ := closeGroup_eq_ok closed
  exact ⟨kind, tuple, full, parent, left, filled, surrounded, absorbed, ran⟩

/-- Behind tokens whose parentheses match, the same groups are open, and the current one has seen
the columns of their items. -/
theorem runBefore_shows (nested : Nested tokens) (ends : opensGroup rest = false)
    (shows : resolver.current.Shows opened first ended slot)
    (ran : runBefore rest resolver tokens = .ok next) :
    next.outer = resolver.outer ∧ next.current.opened = opened ∧
      next.current.firstColumn = first.or (firstColumnIn tokens) ∧
      next.current.columns = ended ++ (itemColumns tokens).modifyHead slot.or := by
  -- Over the grammar and not over single tokens: a group in between is read as a whole, and of the
  -- groups below only that they stay.
  induction nested generalizing resolver next rest opened first ended slot with
  | nil =>
      cases ran
      refine ⟨rfl, shows.opened, ?_, ?_⟩
      · rw [shows.first]
        exact Option.or_none.symm
      · rw [shows.columns]
        simp [itemColumns, itemsOf, itemsFrom, firstColumnIn]
  | @token token later opensNone closesNone _ ih =>
      obtain ⟨middle, accepted, ran⟩ := exists_of_runBefore_cons ran
      by_cases comma : token.kind = .comma
      · cases (accept_of_comma comma).symm.trans accepted
        obtain ⟨outer, place, firstColumn, columns⟩ := ih ends shows.nextItem ran
        have unnamed : token.columnName = none := by rw [Token.columnName, comma]
        refine ⟨outer, place, ?_, ?_⟩
        · rw [firstColumn, firstColumnIn, candidate_of_unnamed unnamed, Option.none_or]
        · rw [columns, itemColumns_comma comma, modifyHead_none_or, List.append_assoc,
            List.modifyHead_cons, Option.or_none]
          rfl
      · rw [opensGroup_append ends] at accepted
        obtain ⟨outer, shown⟩ := accept_shows opensNone closesNone comma shows accepted
        obtain ⟨later, place, firstColumn, columns⟩ := ih ends shown ran
        refine ⟨later.trans outer, place, ?_, ?_⟩
        · rw [firstColumn, firstColumnIn, Option.or_assoc]
        · rw [columns, itemColumns_token opensNone closesNone comma, modifyHead_or_or]
  | @group opening closing content later opens inside closes _ ihInside ih =>
      obtain ⟨kind, tuple, full, parent, left, filled, surrounded, absorbed, ran⟩ :=
        exists_of_runBefore_group opens closes ran
      have closingEnds : opensGroup (closing :: later ++ rest) = false :=
        opensGroup_of_kind closes rfl
      obtain ⟨around, -, firstColumn, -⟩ :=
        ihInside closingEnds (.start kind opening.span) filled
      obtain ⟨rfl, outer⟩ := List.cons.inj (surrounded.symm.trans around)
      have enclosing : ({ resolver.current with tuple := tuple } : Group).Shows opened first ended
          slot := shows.congr rfl
      have shown := enclosing.absorb full.current
      rw [← absorbed, firstColumn, Option.none_or] at shown
      obtain ⟨kept, place, firstColumn, columns⟩ := ih ends shown ran
      refine ⟨kept.trans outer, place, ?_, ?_⟩
      · rw [firstColumn, firstColumnIn_group opens closes, Option.or_assoc]
      · rw [columns, itemColumns_group opens inside closes, modifyHead_or_or]

/-! In every state, no group has columns beyond its current item. -/

def InPlace (resolver : Resolver) : Prop := ∀ group ∈ resolver.groups, group.InPlace

namespace InPlace

theorem current (inPlace : InPlace resolver) : resolver.current.InPlace :=
  inPlace _ List.mem_cons_self

theorem of_groups (current : next.current.InPlace) (outer : ∀ group ∈ next.outer, group.InPlace) :
    InPlace next := List.forall_mem_cons.mpr ⟨current, outer⟩

theorem accept (inPlace : InPlace resolver)
    (accepted : resolver.accept token callFollows = .ok next) : InPlace next := by
  obtain ⟨ended, slot, shows⟩ := inPlace.current.shows
  have outer : ∀ group ∈ resolver.outer, group.InPlace := (List.forall_mem_cons.mp inPlace).2
  by_cases opens : token.kind = .leftParen
  · obtain ⟨kind, tuple, same⟩ := openGroup_eq resolver token.span
    rw [accept_of_opening opens, same] at accepted
    cases accepted
    apply of_groups (Group.Shows.start kind token.span).inPlace
    exact List.forall_mem_cons.mpr ⟨(shows.congr rfl).inPlace, outer⟩
  by_cases closes : token.kind = .rightParen
  · rw [accept_of_closing closes] at accepted
    obtain ⟨parent, surrounded, absorbed⟩ := closeGroup_eq_ok accepted
    rw [surrounded] at outer
    obtain ⟨around, below⟩ := List.forall_mem_cons.mp outer
    obtain ⟨ended, slot, shows⟩ := around.shows
    apply of_groups _ below
    rw [absorbed]
    exact (shows.absorb resolver.current).inPlace
  by_cases comma : token.kind = .comma
  · rw [accept_of_comma comma] at accepted
    cases accepted
    exact of_groups shows.nextItem.inPlace outer
  · obtain ⟨same, shown⟩ := accept_shows opens closes comma shows accepted
    apply of_groups shown.inPlace
    rwa [same]

theorem runBefore (inPlace : InPlace resolver)
    (ran : Resolver.runBefore rest resolver tokens = .ok next) : InPlace next := by
  induction tokens generalizing resolver with
  | nil =>
      cases ran
      exact inPlace
  | cons token tokens ih =>
      obtain ⟨middle, accepted, ran⟩ := exists_of_runBefore_cons ran
      exact ih (inPlace.accept accepted) ran

end InPlace

theorem inPlace_initial : InPlace initial :=
  List.forall_mem_singleton.mpr (Group.Shows.start .root default).inPlace

/-- What is around a group, once it has closed, has this of its content. -/
structure HandsOver (content : List Token) (inside next : Resolver) : Prop where
  around : ∃ parent, inside.outer = parent :: next.outer ∧
    next.current.firstColumn = parent.firstColumn.or (firstColumnIn content)
  nearest : next.current.nearest = firstColumnIn content
  tuple : 0 < directCommas content → inside.current.kind ≠ .call →
    next.current.tuple = some (itemColumns content)
  list : inside.current.kind = .columnList →
    next.insert = inside.insert.map ({ · with columns := some (itemColumns content) })

theorem length_itemColumns (content : List Token) :
    (itemColumns content).length = 1 + directCommas content := by
  rw [itemColumns, List.length_map, itemsOf, length_itemsFrom, directCommas]

/-- Behind the content of a group, the group is the current one. -/
theorem runBefore_group {before after : List Token} {inside : Resolver}
    (opens : opening.kind = .leftParen) (nested : Nested content)
    (closes : closing.kind = .rightParen)
    (ran : runBefore (closing :: after) initial (before ++ opening :: content) = .ok inside) :
    inside.outer ≠ [] ∧ inside.current.opened = opening.span ∧
      inside.current.firstColumn = firstColumnIn content ∧
      inside.current.columns = itemColumns content := by
  obtain ⟨outside, -, ran⟩ := exists_of_runBefore_append ran
  obtain ⟨entered, accepted, ran⟩ := exists_of_runBefore_cons ran
  obtain ⟨kind, tuple, same⟩ := openGroup_eq outside opening.span
  rw [accept_of_opening opens, same] at accepted
  cases accepted
  have ends : opensGroup (closing :: after) = false := opensGroup_of_kind closes rfl
  obtain ⟨outer, opened, firstColumn, columns⟩ :=
    runBefore_shows nested ends (.start kind opening.span) ran
  refine ⟨?_, opened, firstColumn, ?_⟩
  · rw [outer]
    exact List.cons_ne_nil _ _
  · rw [columns, modifyHead_none_or]
    rfl

theorem closeGroup_handsOver {inside : Resolver} (surrounded : inside.outer ≠ [])
    (inPlace : InPlace inside) (firstColumn : inside.current.firstColumn = firstColumnIn content)
    (columns : inside.current.columns = itemColumns content) (span : Span) :
    ∃ next, inside.closeGroup span = .ok next ∧ HandsOver content inside next := by
  obtain ⟨parent, outer, same⟩ := List.exists_cons_of_ne_nil surrounded
  have item : inside.current.item = directCommas content := by
    have length := Group.columns_of_inPlace inPlace.current
    rw [columns, length_itemColumns] at length
    omega
  refine ⟨_, by rw [closeGroup, same], ?_⟩
  exact {
    around := ⟨parent, same, by rw [Group.absorb_eq, firstColumn]⟩
    nearest := by rw [Group.absorb_eq, firstColumn]
    tuple := by
      intro several notCall
      rw [Group.absorb_eq, item, columns]
      exact if_pos ⟨several, notCall⟩
    list := by
      intro isList
      rw [columns]
      exact if_pos isList }

end Resolver

/-- A group that closes has seen the first column in it, and for each of its items the first column
in that, whatever else it contains; these it hands over. At no time has a group more columns than
items. -/
theorem closing_group_columns {opening closing : Token} {content : List Token}
    (opens : opening.kind = .leftParen) (balanced : Balanced content)
    (closes : closing.kind = .rightParen) (before after : List Token) :
    (∀ inside, runBefore (closing :: after) initial (before ++ opening :: content) = .ok inside →
      inside.current.opened = opening.span ∧
      inside.current.firstColumn = firstColumnIn content ∧
      inside.current.columns = (itemsOf content).map firstColumnIn ∧
      inside.current.columns.length = 1 + directCommas content ∧
      ∃ next, inside.accept closing (opensGroup after) = .ok next ∧
        HandsOver content inside next) ∧
    (∀ text found, tokenize text = .ok (before ++ opening :: (content ++ closing :: after)) →
      resolve text = .ok found →
      ∃ inside, runBefore (closing :: after) initial (before ++ opening :: content) = .ok inside) ∧
    ∀ tokens rest resolver, runBefore rest initial tokens = .ok resolver →
      ∀ group ∈ resolver.groups, group.items.length ≤ group.item + 1 := by
  refine ⟨?_, ?_, ?_⟩
  · intro inside ran
    obtain ⟨surrounded, opened, firstColumn, columns⟩ :=
      runBefore_group opens (balanced_iff_nested.mp balanced) closes ran
    have inPlace : InPlace inside := inPlace_initial.runBefore ran
    refine ⟨opened, firstColumn, columns, ?_, ?_⟩
    · rw [columns, length_itemColumns]
    · rw [accept_of_closing closes]
      exact closeGroup_handsOver surrounded inPlace firstColumn columns closing.span
  · intro text found tokenized resolved
    rw [resolve_of_tokenize tokenized] at resolved
    obtain ⟨last, ran, -, -⟩ := resolveTokens_eq_ok resolved
    rw [run_eq_runBefore, ← List.cons_append, ← List.append_assoc] at ran
    obtain ⟨inside, reached, -⟩ := exists_of_runBefore_append ran
    rw [List.append_nil] at reached
    exact ⟨inside, reached⟩
  · intro tokens rest resolver ran
    exact inPlace_initial.runBefore ran

theorem closing_group_columns_of_empty_item :
    let opening : Token := ⟨.leftParen, "(", ⟨7, 8⟩⟩
    let content : List Token := [⟨.identifier, "x", ⟨8, 9⟩⟩, ⟨.operator, "=", ⟨10, 11⟩⟩,
      ⟨.marker, "?", ⟨12, 13⟩⟩, ⟨.comma, ",", ⟨13, 14⟩⟩, ⟨.comma, ",", ⟨15, 16⟩⟩,
      ⟨.identifier, "f", ⟨17, 18⟩⟩, ⟨.leftParen, "(", ⟨18, 19⟩⟩, ⟨.number, "1", ⟨19, 20⟩⟩,
      ⟨.comma, ",", ⟨20, 21⟩⟩, ⟨.identifier, "b", ⟨22, 23⟩⟩, ⟨.rightParen, ")", ⟨23, 24⟩⟩]
    let closing : Token := ⟨.rightParen, ")", ⟨24, 25⟩⟩
    Balanced content ∧
    tokenize "SELECT (x = ?, , f(1, b))" =
      .ok (⟨.keyword .SELECT, "SELECT", ⟨0, 6⟩⟩ :: opening :: (content ++ [closing])) ∧
    ∃ inside, runBefore [closing] initial
        (⟨.keyword .SELECT, "SELECT", ⟨0, 6⟩⟩ :: opening :: content) = .ok inside ∧
      inside.current.firstColumn = some "X" ∧
      inside.current.columns = [some "X", none, some "B"] ∧
      inside.current.columns.length = 1 + directCommas content := by
  intro opening content closing
  have balanced : Balanced content := by decide
  have tokenized : tokenize "SELECT (x = ?, , f(1, b))" =
      .ok (⟨.keyword .SELECT, "SELECT", ⟨0, 6⟩⟩ :: opening :: (content ++ [closing])) := by cbv
  have resolved : resolve "SELECT (x = ?, , f(1, b))" = .ok [⟨0, "X", ⟨12, 13⟩⟩] := by cbv
  obtain ⟨shown, reached, -⟩ := @closing_group_columns opening closing content rfl balanced rfl
    [⟨.keyword .SELECT, "SELECT", ⟨0, 6⟩⟩] []
  obtain ⟨inside, ran⟩ := reached _ _ tokenized resolved
  obtain ⟨-, firstColumn, columns, length, -⟩ := shown inside ran
  refine ⟨balanced, tokenized, inside, ran, ?_, ?_, length⟩
  · rw [firstColumn]
    cbv
  · rw [columns]
    cbv

end BindStream
