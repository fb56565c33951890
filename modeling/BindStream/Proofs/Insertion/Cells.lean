import Mathlib
import BindStream.Proofs.Insertion.Resolution
import BindStream.Proofs.Resolver.Record

namespace BindStream

/-! The resolver at the top of an `INSERT`, from its first word to a row of `VALUES`, and between the
items of the row. -/

/-- What may stand around the column list of an `INSERT`, up to `VALUES`. -/
def Token.introduces (token : Token) : Bool :=
  match token.kind with
  | .leftParen => false
  | .rightParen => false
  | .semicolon => false
  | .keyword keyword => !keyword.opensClause
  | _ => true

/-- Whole rows, each with a comma behind it. -/
inductive RowsBefore : List Token → Prop
  | nil : RowsBefore []
  | row {opening closing comma : Token} {content rest : List Token}
      (opens : opening.kind = .leftParen) (balanced : Balanced content)
      (closes : closing.kind = .rightParen) (separates : comma.kind = .comma)
      (later : RowsBefore rest) : RowsBefore (opening :: (content ++ closing :: comma :: rest))

/-- An item has no comma outside parentheses of its own. -/
structure IsCell (item : List Token) : Prop where
  balanced : Balanced item
  single : commas (Outline.behind item).members = 0

instance (item : List Token) : Decidable (IsCell item) :=
  decidable_of_iff (Balanced item ∧ commas (Outline.behind item).members = 0)
    ⟨fun ⟨balanced, single⟩ => ⟨balanced, single⟩, fun ⟨balanced, single⟩ => ⟨balanced, single⟩⟩

/-- Whether an item brings a boundary of a clause into its row: a word that opens a clause, an `OR`,
or an `AND` that ends no `BETWEEN`, outside parentheses of its own. -/
def divides (item : List Token) : Bool := boundedBy (Outline.behind item).members

namespace Resolver

variable {resolver : Resolver} {token opening closing comma : Token} {rest tokens : List Token}
variable {insert : Option InsertHead} {columns : Columns} {callFollows : Bool}

/-- A resolver outside all parentheses. -/
structure AtTop (insert : Option InsertHead) (resolver : Resolver) : Prop where
  outer : resolver.outer = []
  root : resolver.current.kind = .root
  insert : resolver.insert = insert

theorem atTop_of_balanced (balanced : Balanced tokens) :
    (skimBefore rest initial tokens).outer = [] ∧
      (skimBefore rest initial tokens).current.kind = .root := by
  obtain ⟨keeps, closed⟩ :=
    (keeps_initial (tokens ++ rest)).skimBefore (fun _ => rfl) balanced
  obtain ⟨outer, records⟩ := keeps.at_bottom closed
  exact ⟨outer, records.kind⟩

/-- A resolver for which no column list has begun. -/
structure Uninserted (resolver : Resolver) : Prop where
  insert : resolver.insert = none
  kinds : ∀ group ∈ resolver.groups, group.kind ≠ .columnList

namespace Uninserted

theorem mapCurrent {f : Group → Group} (plain : Uninserted resolver)
    (keeps : ∀ group, (f group).kind = group.kind) : Uninserted (resolver.mapCurrent f) := by
  obtain ⟨first, later⟩ := List.forall_mem_cons.mp plain.kinds
  have kind : (resolver.mapCurrent f).current.kind ≠ .columnList :=
    fun list => first ((keeps resolver.current).symm.trans list)
  exact ⟨plain.insert, List.forall_mem_cons.mpr ⟨kind, later⟩⟩

theorem name (plain : Uninserted resolver) (token : Token) :
    Uninserted (resolver.name token callFollows) := by
  unfold Resolver.name
  split
  · exact ⟨plain.insert, plain.kinds⟩
  · split
    · exact plain.mapCurrent fun _ => rfl
    · exact plain

theorem keyword {keyword : Keyword} (plain : Uninserted resolver) (other : keyword ≠ .INSERT) :
    Uninserted (resolver.keyword keyword) := by
  have bounded : Uninserted (resolver.mapCurrent Group.boundary) := plain.mapCurrent fun _ => rfl
  unfold Resolver.keyword
  split
  · exact plain.mapCurrent Group.kind_conjunction
  · exact bounded
  · exact plain.mapCurrent fun _ => rfl
  · exact absurd rfl other
  · split
    · unfold openClause
      split
      · exact ⟨by rw [plain.insert]; rfl, bounded.kinds⟩
      · exact bounded
    · exact plain

theorem openGroup (plain : Uninserted resolver) (span : Span) :
    Uninserted (resolver.openGroup span) := by
  have noRow : resolver.insertKind? = none := by
    rw [insertKind?, plain.insert, ite_self]
  obtain ⟨first, later⟩ := List.forall_mem_cons.mp plain.kinds
  rw [Resolver.openGroup, noRow]
  dsimp only
  split
  · exact ⟨plain.insert, List.forall_mem_cons.mpr ⟨by rintro ⟨⟩, plain.kinds⟩⟩
  · refine ⟨plain.insert, List.forall_mem_cons.mpr ⟨(innerKind_ne _).2, ?_⟩⟩
    exact List.forall_mem_cons.mpr ⟨first, later⟩

theorem closeGroup {next : Resolver} {span : Span} (plain : Uninserted resolver)
    (closed : resolver.closeGroup span = .ok next) : Uninserted next := by
  obtain ⟨first, later⟩ := List.forall_mem_cons.mp plain.kinds
  unfold Resolver.closeGroup at closed
  split at closed
  · cases closed
  · next parent outer surrounded =>
      cases closed
      rw [surrounded] at later
      obtain ⟨parentKind, below⟩ := List.forall_mem_cons.mp later
      refine ⟨(if_neg first).trans plain.insert, List.forall_mem_cons.mpr ⟨?_, below⟩⟩
      rwa [Group.absorb_eq]

theorem pass (plain : Uninserted resolver) (other : token.kind ≠ .keyword .INSERT) :
    Uninserted (resolver.pass token callFollows) := by
  obtain ⟨kind, text, span⟩ := token
  cases kind with
  | identifier => exact plain.name ⟨.identifier, text, span⟩
  | quotedIdentifier => exact plain.name ⟨.quotedIdentifier, text, span⟩
  | keyword keyword => exact plain.keyword fun same => other (congrArg _ same)
  | operator | quoted | number => exact plain
  | marker =>
      obtain ⟨parameters, passed⟩ : ∃ parameters,
          resolver.pass ⟨.marker, text, span⟩ callFollows =
            { resolver with parameters := parameters } := pass_of_isMarker rfl
      rw [passed]
      exact ⟨plain.insert, plain.kinds⟩
  | leftParen => exact plain.openGroup span
  | rightParen =>
      have same : resolver.accept ⟨.rightParen, text, span⟩ callFollows =
          resolver.closeGroup span := rfl
      rw [Resolver.pass, same]
      cases closed : resolver.closeGroup span with
      | error failure => exact plain
      | ok next => exact plain.closeGroup closed
  | comma => exact plain.mapCurrent fun _ => rfl
  | semicolon =>
      have ended : Uninserted (resolver.mapCurrent Group.boundary) :=
        plain.mapCurrent fun _ => rfl
      change Uninserted resolver.endStatement
      unfold endStatement
      split
      · exact ⟨rfl, ended.kinds⟩
      · exact ended

theorem skimBefore (plain : Uninserted resolver)
    (others : ∀ token ∈ tokens, token.kind ≠ .keyword .INSERT) :
    Uninserted (Resolver.skimBefore rest resolver tokens) := by
  induction tokens generalizing resolver with
  | nil => exact plain
  | cons token tokens ih =>
      obtain ⟨other, others⟩ := List.forall_mem_cons.mp others
      exact ih (plain.pass other) others

end Uninserted

/-- Behind whole statements no `INSERT` has begun. -/
theorem uninserted_statements (balanced : Balanced tokens)
    (ends : ∀ last ∈ tokens.getLast?, last.kind = .semicolon) :
    Uninserted (skimBefore rest initial tokens) := by
  obtain ⟨outer, root⟩ : (skimBefore rest initial tokens).outer = [] ∧
      (skimBefore rest initial tokens).current.kind = .root := atTop_of_balanced balanced
  have kinds : ∀ group ∈ (skimBefore rest initial tokens).groups, group.kind ≠ .columnList := by
    rw [groups, outer, List.forall_mem_singleton, root]
    rintro ⟨⟩
  refine ⟨?_, kinds⟩
  obtain rfl | ⟨before, last, rfl⟩ := List.eq_nil_or_concat' tokens
  · rfl
  · -- The semicolon stands outside all parentheses, for there are none open behind it either.
    have semicolon : last.kind = .semicolon := ends last List.getLast?_concat
    rw [skimBefore_append] at outer ⊢
    generalize skimBefore ([last] ++ rest) initial before = reached at outer ⊢
    have passed : skimBefore rest reached [last] = reached.endStatement := by
      apply pass_of_ok
      rw [accept, semicolon]
    rw [passed] at outer ⊢
    unfold endStatement at outer ⊢
    split at outer
    · next whole => rw [if_pos whole]
    · next inside => exact absurd (List.isEmpty_iff.mpr outer) inside

/-- Where a statement begins, with what may come before its `INSERT`. -/
theorem atTop_statements {earlier lead : List Token} (balanced : Balanced earlier)
    (ends : ∀ last ∈ earlier.getLast?, last.kind = .semicolon) (whole : Balanced lead)
    (others : ∀ token ∈ lead, token.kind ≠ .keyword .INSERT) :
    AtTop none (skimBefore rest initial (earlier ++ lead)) := by
  obtain ⟨outer, root⟩ : (skimBefore rest initial (earlier ++ lead)).outer = [] ∧
      (skimBefore rest initial (earlier ++ lead)).current.kind = .root :=
    atTop_of_balanced (balanced.append whole)
  refine ⟨outer, root, ?_⟩
  rw [skimBefore_append]
  exact ((uninserted_statements balanced ends).skimBefore others).insert

namespace AtTop

theorem insert_word (top : AtTop none resolver) (inserts : token.kind = .keyword .INSERT) :
    AtTop (some ⟨none, none⟩) (resolver.pass token callFollows) := by
  have whole : resolver.atRoot = true := List.isEmpty_iff.mpr top.outer
  have passed : resolver.pass token callFollows = resolver.beginInsert := by
    apply pass_of_ok
    rw [accept, inserts]
    dsimp only
    rw [keyword, if_pos whole]
  rw [passed, beginInsert, top.insert]
  exact ⟨top.outer, top.root, rfl⟩

theorem mapCurrent {f : Group → Group} (top : AtTop insert resolver)
    (keeps : ∀ group, (f group).kind = group.kind) : AtTop insert (resolver.mapCurrent f) :=
  ⟨top.outer, (keeps resolver.current).trans top.root, top.insert⟩

theorem name (top : AtTop insert resolver) (named : token.columnName ≠ none) :
    AtTop insert (resolver.pass token callFollows) := by
  have passed : resolver.pass token callFollows = resolver.name token callFollows := by
    obtain ⟨kind, text, span⟩ := token
    cases kind <;> first | rfl | exact absurd rfl named
  rw [passed, Resolver.name]
  split
  · exact ⟨top.outer, top.root, top.insert⟩
  · split
    · exact top.mapCurrent fun _ => rfl
    · exact top

theorem introduced {head : InsertHead} (top : AtTop (some head) resolver)
    (introduces : token.introduces = true) : AtTop (some head) (resolver.pass token callFollows) := by
  obtain ⟨kind, text, span⟩ := token
  cases kind with
  | identifier | quotedIdentifier =>
      exact top.name (Option.some_ne_none _)
  | keyword keyword =>
      change AtTop _ (resolver.keyword keyword)
      have silent : keyword.opensClause = false := by simpa [Token.introduces] using introduces
      unfold Resolver.keyword
      split
      · exact top.mapCurrent Group.kind_conjunction
      · exact top.mapCurrent fun _ => rfl
      · exact top.mapCurrent fun _ => rfl
      · split
        · refine ⟨top.outer, top.root, ?_⟩
          rw [beginInsert, top.insert]
          rfl
        · exact top
      · rw [if_neg (Bool.eq_false_iff.mp silent)]
        exact top
  | marker =>
      obtain ⟨parameters, passed⟩ : ∃ parameters,
          resolver.pass ⟨.marker, text, span⟩ callFollows =
            { resolver with parameters := parameters } := pass_of_isMarker rfl
      rw [passed]
      exact ⟨top.outer, top.root, top.insert⟩
  | operator | quoted | number => exact top
  | comma => exact top.mapCurrent fun _ => rfl
  | leftParen | rightParen | semicolon => cases introduces

theorem introduction {head : InsertHead} (top : AtTop (some head) resolver)
    (introduces : ∀ token ∈ tokens, token.introduces = true) :
    AtTop (some head) (skimBefore rest resolver tokens) := by
  induction tokens generalizing resolver with
  | nil => exact top
  | cons token tokens ih =>
      obtain ⟨first, introduces⟩ := List.forall_mem_cons.mp introduces
      exact ih (top.introduced first) introduces

/-- Behind its column list, an `INSERT` has the columns that are named there. -/
theorem columnList {names : List Name} (top : AtTop (some ⟨none, none⟩) resolver)
    (nonempty : names ≠ []) (opens : opening.kind = .leftParen)
    (spell : Spell tokens (commaSeparated (names.map fun name => [name.lexeme])))
    (closes : closing.kind = .rightParen) :
    AtTop (some ⟨some (names.map fun name => some name.column), none⟩)
      (skimBefore rest resolver (opening :: (tokens ++ [closing]))) := by
  obtain ⟨group, outer, head, callPending, parameters⟩ := resolver
  obtain ⟨rfl, root, rfl⟩ := top
  let entered : Resolver :=
    ⟨.start .columnList opening.span, [group], some ⟨none, none⟩, false, parameters⟩
  have passed (callFollows : Bool) :
      pass ⟨group, [], some ⟨none, none⟩, callPending, parameters⟩ opening callFollows =
        entered := by
    apply pass_of_ok
    rw [accept, opens]
    rfl
  have ends : opensGroup ([closing] ++ rest) = false := opensGroup_of_kind closes rfl
  -- Names are pushed whatever their spans, so the lexemes may be read in place of the tokens.
  have reads : Reads (some ⟨none, none⟩) [group.mapSpan fun _ => default]
      (· = .start .columnList default) _ [] _ := reads_columnList names nonempty
  have same : entered.mapSpans (fun _ => default) = reading (some ⟨none, none⟩)
      (.start .columnList default) [group.mapSpan fun _ => default]
      (parameters.map (Parameter.mapSpan fun _ => default)) := rfl
  obtain ⟨next, left, found, ran, placed, -, kind, named⟩ :=
    reads.runBefore spell ends same rfl
  have begun : skimBefore rest ⟨group, [], some ⟨none, none⟩, callPending, parameters⟩
      (opening :: (tokens ++ [closing])) = next.pass closing (opensGroup rest) := by
    rw [skimBefore, passed, skimBefore_append, skimBefore_of_runBefore ran]
    rfl
  rw [begun]
  obtain ⟨current, outer, head, pending, made⟩ := next
  obtain ⟨rfl, below, rfl, rfl, -⟩ := Resolver.mk.inj placed
  obtain ⟨parent, rfl, same⟩ := List.map_eq_singleton_iff.mp below
  have list : current.kind = .columnList := kind
  have columns : current.columns = names.map fun name => some name.column := named
  have closed : pass ⟨current, [parent], some ⟨none, none⟩, false, made⟩ closing (opensGroup rest) =
      ⟨parent.absorb current, [], some ⟨some current.columns, none⟩, false, made⟩ := by
    apply pass_of_ok
    rw [accept, closes]
    dsimp only
    rw [closeGroup]
    dsimp only
    rw [if_pos list]
    rfl
  have parentRoot : parent.kind = .root := (congrArg Group.kind same).trans root
  rw [closed, columns, Group.absorb_eq]
  exact ⟨rfl, parentRoot, rfl⟩

theorem values {list : Option Columns} {clause : Option Keyword}
    (top : AtTop (some ⟨list, clause⟩) resolver) (opens : token.kind = .keyword .VALUES) :
    AtTop (some ⟨list, some .VALUES⟩) (resolver.pass token callFollows) := by
  have whole : resolver.atRoot = true := List.isEmpty_iff.mpr top.outer
  have passed : resolver.pass token callFollows = resolver.openClause .VALUES := by
    apply pass_of_ok
    rw [accept, opens]
    rfl
  rw [passed, openClause, if_pos whole, top.insert]
  exact ⟨top.outer, top.root, rfl⟩

end AtTop

/-- A resolver in a row of `VALUES`, right behind its opening or a comma. -/
structure AtCell (columns : Columns) (place : Nat) (divided : Bool) (resolver : Resolver) :
    Prop where
  below : ∃ root : Group, resolver.outer = [root] ∧ root.kind = .root
  insert : resolver.insert = some ⟨some columns, some .VALUES⟩
  calls : resolver.callPending = false
  kind : resolver.current.kind = .valuesTuple
  place : resolver.current.item = place
  divided : resolver.current.bounded = divided
  nearest : resolver.current.nearest = none
  free : resolver.current.betweenPending = false
  tuple : resolver.current.tuple = none

theorem AtTop.opensRow (top : AtTop (some ⟨some columns, some .VALUES⟩) resolver)
    (opens : opening.kind = .leftParen) :
    AtCell columns 0 false (resolver.pass opening callFollows) := by
  obtain ⟨group, outer, head, callPending, parameters⟩ := resolver
  obtain ⟨rfl, root, rfl⟩ := top
  have passed : pass ⟨group, [], some ⟨some columns, some .VALUES⟩, callPending, parameters⟩
      opening callFollows = ⟨.start .valuesTuple opening.span, [group],
        some ⟨some columns, some .VALUES⟩, false, parameters⟩ := by
    apply pass_of_ok
    rw [accept, opens]
    rfl
  rw [passed]
  exact ⟨⟨group, rfl, root⟩, rfl, rfl, rfl, rfl, rfl, rfl, rfl, rfl⟩

namespace AtCell

variable {place : Nat} {divided : Bool}

/-- A marker that is an item binds by its place, unless the row has been divided before it. -/
theorem column? (row : AtCell columns place divided resolver) :
    resolver.column? = if divided then none else columns[place]?.join := by
  obtain ⟨root, outer, -⟩ := row.below
  rw [Resolver.column?, insertColumns, row.insert, groups, outer]
  change columnIn columns _ = _
  rw [columnIn, Group.positional, row.divided, row.kind, row.place, row.nearest]
  cases divided <;> rfl

/-- Tokens that close all parentheses that they open stay in the row. -/
theorem content (row : AtCell columns place divided resolver) (balanced : Balanced tokens)
    (ends : opensGroup rest = false) :
    (skimBefore rest resolver tokens).outer = resolver.outer ∧
      (skimBefore rest resolver tokens).insert = resolver.insert ∧
      (skimBefore rest resolver tokens).callPending = false ∧
      resolver.current.Records (skimBefore rest resolver tokens).current
        (Outline.behind tokens).members := by
  obtain ⟨root, outer, -⟩ := row.below
  have begun : Keeps [root] resolver.current resolver.insert resolver .top (tokens ++ rest) := by
    refine ⟨?_, fun _ => rfl, row.calls, by rintro ⟨⟩⟩
    rw [groups, outer]
    exact .bottom (.begin row.free row.tuple)
  obtain ⟨keeps, closed⟩ := begun.skimBefore (by rintro ⟨⟩) balanced
  have nothing : opensGroup [] = false := rfl
  rw [outline_after_congr .top (ends.trans nothing.symm)] at keeps closed
  have calls : (skimBefore rest resolver tokens).callPending = false := by
    refine keeps.calls.trans (Bool.eq_false_iff.mpr fun called => ?_)
    have follows := keeps.opens called
    rw [ends] at follows
    cases follows
  obtain ⟨below, records⟩ := keeps.at_bottom closed
  exact ⟨below.trans outer.symm, keeps.insert (List.cons_ne_nil _ _), calls, records⟩

theorem cell (row : AtCell columns place divided resolver) (isCell : IsCell tokens)
    (separates : comma.kind = .comma) :
    AtCell columns (place + 1) (divided || divides tokens)
      (skimBefore rest resolver (tokens ++ [comma])) := by
  have ends : opensGroup ([comma] ++ rest) = false := opensGroup_of_kind separates rfl
  obtain ⟨outer, insert, calls, records⟩ := row.content isCell.balanced ends
  have passed : skimBefore rest resolver (tokens ++ [comma]) =
      (skimBefore ([comma] ++ rest) resolver tokens).mapCurrent Group.nextItem := by
    rw [skimBefore_append]
    apply pass_of_ok
    rw [accept, separates]
  generalize skimBefore ([comma] ++ rest) resolver tokens = reached at passed outer insert calls records
  rw [passed]
  obtain ⟨root, below, isRoot⟩ := row.below
  exact {
    below := ⟨root, outer.trans below, isRoot⟩
    insert := insert.trans row.insert
    calls := calls
    kind := records.kind.trans row.kind
    place := by
      change reached.current.item + 1 = _
      rw [records.item, isCell.single, row.place]
    divided := by
      change reached.current.bounded = _
      rw [records.bounded, row.divided, Bool.or_comm]
      rfl
    nearest := rfl
    free := rfl
    tuple := rfl }

theorem closesRow (row : AtCell columns place divided resolver) (balanced : Balanced tokens)
    (closes : closing.kind = .rightParen) :
    AtTop (some ⟨some columns, some .VALUES⟩)
      (skimBefore rest resolver (tokens ++ [closing])) := by
  have ends : opensGroup ([closing] ++ rest) = false := opensGroup_of_kind closes rfl
  obtain ⟨outer, insert, calls, records⟩ := row.content balanced ends
  obtain ⟨root, below, isRoot⟩ := row.below
  rw [skimBefore_append]
  generalize skimBefore ([closing] ++ rest) resolver tokens = reached at outer insert calls records
  obtain ⟨current, groups, head, callPending, parameters⟩ := reached
  cases outer.trans below
  have noList : current.kind ≠ .columnList := by
    rw [records.kind.trans row.kind]
    nofun
  have passed : pass ⟨current, [root], head, callPending, parameters⟩ closing (opensGroup rest) =
      ⟨root.absorb current, [], head, callPending, parameters⟩ := by
    apply pass_of_ok
    rw [accept, closes]
    dsimp only
    rw [closeGroup]
    dsimp only
    rw [if_neg noList]
  change AtTop _ (pass _ closing (opensGroup rest))
  rw [passed, Group.absorb_eq]
  exact ⟨rfl, isRoot, insert.trans row.insert⟩

end AtCell

theorem AtTop.rows (top : AtTop (some ⟨some columns, some .VALUES⟩) resolver)
    (rows : RowsBefore tokens) :
    AtTop (some ⟨some columns, some .VALUES⟩) (skimBefore rest resolver tokens) := by
  induction rows generalizing resolver with
  | nil => exact top
  | @row opening closing comma content later opens balanced closes separates _ ih =>
      have split : opening :: (content ++ closing :: comma :: later) =
          [opening] ++ ((content ++ [closing]) ++ ([comma] ++ later)) := by simp
      have passed {reached : Resolver} {callFollows : Bool} :
          reached.pass comma callFollows = reached.mapCurrent Group.nextItem := by
        apply pass_of_ok
        rw [accept, separates]
      rw [split, skimBefore_append, skimBefore_append, skimBefore_append]
      refine ih ?_
      change AtTop _ (pass _ comma _)
      rw [passed]
      exact ((top.opensRow opens).closesRow balanced closes).mapCurrent fun _ => rfl

end Resolver

end BindStream
