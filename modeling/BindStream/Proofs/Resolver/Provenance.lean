import BindStream.Proofs.Resolver.Sight

namespace BindStream

/-! Where the column of a marker comes from. Every name that the groups and the `INSERT` have kept
for markers stands among the tokens before, and no statement has ended since. -/

/-- The columns that items name are among the known ones. -/
def Columns.Within (known : String → Prop) (columns : Columns) : Prop :=
  ∀ column, some column ∈ columns → known column

section

variable {known other : String → Prop} {items : Columns} {column : String}

namespace Columns.Within

theorem nil : Columns.Within known [] := fun _ member => absurd member List.not_mem_nil

theorem mono (within : items.Within known) (wider : ∀ column, known column → other column) :
    items.Within other :=
  fun column member => wider column (within column member)

theorem pad (within : items.Within known) (n : Nat) :
    Columns.Within known (items ++ List.replicate n none) := by
  intro column member
  rcases List.mem_append.mp member with member | padding
  · exact within column member
  · cases List.eq_of_mem_replicate padding

theorem fill (within : items.Within known) (named : known column) (i : Nat) :
    (items.fill i column).Within known := by
  intro name member
  unfold Columns.fill at member
  dsimp only at member
  split at member
  · rcases List.mem_or_eq_of_mem_set member with member | same
    · exact within.pad _ name member
    · rw [Option.some.inj same]
      exact named
  · exact within.pad _ name member

end Columns.Within

/-- What markers may take from a group is known, and if the group is an inner one, also what it
passes on when it closes. -/
structure Group.Knows (known : String → Prop) (isInner : Bool) (group : Group) : Prop where
  nearest : ∀ column ∈ group.nearest, known column
  tuple : ∀ columns ∈ group.tuple, Columns.Within known columns
  row : ∀ columns, group.kind = .rowTuple columns → columns.Within known
  firstColumn : isInner = true → ∀ column ∈ group.firstColumn, known column
  items : isInner = true → group.items.Within known

namespace Group.Knows

variable {group inner : Group} {isInner : Bool}

theorem start {kind : GroupKind} (row : ∀ columns, kind = .rowTuple columns → columns.Within known)
    (opened : Span) : (Group.start kind opened).Knows known isInner :=
  ⟨nofun, nofun, row, nofun, fun _ => .nil⟩

theorem mono (knows : group.Knows known isInner)
    (wider : ∀ column, known column → other column) : group.Knows other isInner where
  nearest column member := wider column (knows.nearest column member)
  tuple columns member := (knows.tuple columns member).mono wider
  row columns kind := (knows.row columns kind).mono wider
  firstColumn inside column member := wider column (knows.firstColumn inside column member)
  items inside := (knows.items inside).mono wider

theorem boundary (knows : group.Knows known isInner) : group.boundary.Knows known isInner :=
  ⟨nofun, nofun, knows.row, knows.firstColumn, knows.items⟩

theorem nextItem (knows : group.Knows known isInner) : group.nextItem.Knows known isInner :=
  ⟨nofun, nofun, knows.row, knows.firstColumn, knows.items⟩

theorem betweenPending (knows : group.Knows known isInner) (pending : Bool) :
    Group.Knows known isInner { group with betweenPending := pending } :=
  ⟨knows.nearest, knows.tuple, knows.row, knows.firstColumn, knows.items⟩

theorem dropTuple (knows : group.Knows known isInner) :
    Group.Knows known isInner { group with tuple := none } :=
  ⟨knows.nearest, nofun, knows.row, knows.firstColumn, knows.items⟩

theorem conjunction (knows : group.Knows known isInner) :
    group.conjunction.Knows known isInner := by
  unfold Group.conjunction
  split
  · exact knows.betweenPending false
  · exact knows.boundary

theorem columns (knows : group.Knows known true) : group.columns.Within known :=
  (knows.items rfl).pad _

theorem or_firstColumn {added : Option String} (knows : group.Knows known isInner)
    (named : ∀ column ∈ added, known column) (inside : isInner = true) :
    ∀ column ∈ group.firstColumn.or added, known column := by
  intro column member
  rcases Option.or_eq_some_iff.mp member with first | ⟨-, later⟩
  · exact knows.firstColumn inside column first
  · exact named column later

theorem push (knows : group.Knows known isInner) (named : known column) :
    (group.push column).Knows known isInner where
  nearest _ member := Option.some.inj member ▸ named
  tuple := nofun
  row := knows.row
  firstColumn := knows.or_firstColumn fun _ member => Option.some.inj member ▸ named
  items inside := (knows.items inside).fill named group.item

theorem absorb (knows : group.Knows known isInner) (closed : inner.Knows known true) :
    (group.absorb inner).Knows known isInner := by
  have first := closed.firstColumn rfl
  rw [Group.absorb_eq]
  refine ⟨first, ?_, knows.row, knows.or_firstColumn first, fun inside => ?_⟩
  · intro columns member
    dsimp only at member
    split at member
    · rw [← Option.some.inj member]
      exact closed.columns
    · split at member
      · cases member
      · exact knows.tuple columns member
  · dsimp only
    split
    · next column named => exact (knows.items inside).fill (first column named) group.item
    · exact knows.items inside

theorem positional {insertColumns columns : Columns} (knows : group.Knows known isInner)
    (inserted : insertColumns.Within known)
    (byPosition : group.positional insertColumns = some columns) : columns.Within known := by
  unfold Group.positional at byPosition
  split at byPosition
  · cases byPosition
  · split at byPosition
    · rw [← Option.some.inj byPosition]
      exact inserted
    · next row =>
      rw [← Option.some.inj byPosition]
      exact knows.row _ row
    · cases byPosition

end Group.Knows

theorem columnIn_cons_cases {insertColumns : Columns} {group : Group} {outer : List Group}
    (found : columnIn insertColumns (group :: outer) = some column) :
    (∃ columns, group.positional insertColumns = some columns ∧ some column ∈ columns) ∨
      group.nearest = some column ∨ columnIn insertColumns outer = some column := by
  unfold columnIn at found
  split at found
  · next columns byPosition =>
    have listed := Option.join_eq_some_iff.mp found
    exact .inl ⟨columns, byPosition, List.mem_of_getElem? listed⟩
  · split at found
    · next nearest =>
      cases found
      exact .inr (.inl nearest)
    · split at found
      · cases found
      · exact .inr (.inr found)

/-- The groups around a token know their columns. The statement itself never closes, so that what
it would pass on may stem from a statement before. -/
inductive KnowAll (known : String → Prop) : List Group → Prop
  | root {group : Group} (kind : group.kind = .root) (knows : group.Knows known false) :
      KnowAll known [group]
  | inner {group : Group} {outer : List Group} (knows : group.Knows known true)
      (around : KnowAll known outer) : KnowAll known (group :: outer)

namespace KnowAll

variable {group : Group} {outer : List Group}

theorem head (groups : KnowAll known (group :: outer)) : ∃ isInner, group.Knows known isInner := by
  cases groups with
  | root kind knows => exact ⟨false, knows⟩
  | inner knows around => exact ⟨true, knows⟩

theorem mapHead {f : Group → Group} (groups : KnowAll known (group :: outer))
    (kind : (f group).kind = group.kind)
    (step : ∀ {isInner}, group.Knows known isInner → (f group).Knows known isInner) :
    KnowAll known (f group :: outer) := by
  cases groups with
  | root top knows => exact .root (kind.trans top) (step knows)
  | inner knows around => exact .inner (step knows) around

theorem mono {groups : List Group} (all : KnowAll known groups)
    (wider : ∀ column, known column → other column) : KnowAll other groups := by
  induction all with
  | root kind knows => exact .root kind (knows.mono wider)
  | inner knows around ih => exact .inner (knows.mono wider) ih

theorem lookup {insertColumns : Columns} {groups : List Group} (all : KnowAll known groups)
    (inserted : insertColumns.Within known)
    (found : columnIn insertColumns groups = some column) : known column := by
  induction all with
  | root kind knows =>
      rcases columnIn_cons_cases found with ⟨columns, byPosition, listed⟩ | nearest | outside
      · exact knows.positional inserted byPosition column listed
      · exact knows.nearest column nearest
      · cases outside
  | inner knows around ih =>
      rcases columnIn_cons_cases found with ⟨columns, byPosition, listed⟩ | nearest | outside
      · exact knows.positional inserted byPosition column listed
      · exact knows.nearest column nearest
      · exact ih outside

end KnowAll

namespace Resolver

variable {resolver next : Resolver} {token : Token} {callFollows : Bool}

/-- Every column that a marker may bind to is known. -/
structure Knows (known : String → Prop) (resolver : Resolver) : Prop where
  groups : KnowAll known resolver.groups
  inserted : resolver.insertColumns.Within known

theorem insertKind?_ne_rowTuple {kind : GroupKind} (inserting : resolver.insertKind? = some kind)
    (columns : Columns) : kind ≠ .rowTuple columns := by
  unfold insertKind? at inserting
  split at inserting
  · split at inserting
    all_goals
      cases inserting
      try exact nofun
  · cases inserting

theorem innerKind_eq_rowTuple {group : Group} {columns : Columns}
    (row : innerKind group = .rowTuple columns) :
    group.kind = .rowTuple columns ∨ group.tuple = some columns := by
  unfold innerKind at row
  split at row
  · next kind => exact .inl (kind.trans row)
  · next tuple _ =>
    cases row
    exact .inr tuple
  · cases row

namespace Knows

theorem initial : Resolver.initial.Knows known :=
  ⟨.root rfl (.start nofun default), .nil⟩

theorem mono (knows : resolver.Knows known) (wider : ∀ column, known column → other column) :
    resolver.Knows other :=
  ⟨knows.groups.mono wider, knows.inserted.mono wider⟩

theorem column? (knows : resolver.Knows known) (seen : resolver.column? = some column) :
    known column :=
  knows.groups.lookup knows.inserted seen

theorem mapCurrent {f : Group → Group} (knows : resolver.Knows known)
    (kind : ∀ group, (f group).kind = group.kind)
    (step : ∀ {group isInner}, group.Knows known isInner → (f group).Knows known isInner) :
    (resolver.mapCurrent f).Knows known :=
  ⟨knows.groups.mapHead (kind resolver.current) step, knows.inserted⟩

theorem name (knows : resolver.Knows known)
    (named : callFollows = false → ∀ column ∈ token.columnName, known column) :
    (resolver.name token callFollows).Knows known := by
  unfold Resolver.name
  split
  · exact ⟨knows.groups, knows.inserted⟩
  · next noCall =>
    split
    · next column name =>
      have here : known column := named (Bool.eq_false_iff.mpr noCall) column name
      exact knows.mapCurrent (fun _ => rfl) fun group => group.push here
    · exact knows

theorem beginInsert (knows : resolver.Knows known) : resolver.beginInsert.Knows known := by
  refine ⟨knows.groups, ?_⟩
  obtain ⟨current, outer, insert, callPending, parameters⟩ := resolver
  cases insert <;> exact knows.inserted

theorem openClause (knows : resolver.Knows known) (keyword : Keyword) :
    (resolver.openClause keyword).Knows known := by
  have bounded : (resolver.mapCurrent Group.boundary).Knows known :=
    knows.mapCurrent (fun _ => rfl) fun group => group.boundary
  unfold Resolver.openClause
  split
  · refine ⟨bounded.groups, ?_⟩
    obtain ⟨current, outer, insert, callPending, parameters⟩ := resolver
    cases insert <;> exact knows.inserted
  · exact bounded

theorem keyword (knows : resolver.Knows known) (keyword : Keyword) :
    (resolver.keyword keyword).Knows known := by
  unfold Resolver.keyword
  split
  · exact knows.mapCurrent Group.kind_conjunction fun group => group.conjunction
  · exact knows.mapCurrent (fun _ => rfl) fun group => group.boundary
  · exact knows.mapCurrent (fun _ => rfl) fun group => group.betweenPending true
  · split
    · exact knows.beginInsert
    · exact knows
  · split
    · exact knows.openClause keyword
    · exact knows

theorem innerKind {group : Group} {isInner : Bool} (knows : group.Knows known isInner)
    (columns : Columns) (row : Resolver.innerKind group = .rowTuple columns) :
    columns.Within known := by
  rcases innerKind_eq_rowTuple row with kind | tuple
  · exact knows.row columns kind
  · exact knows.tuple columns tuple

theorem openGroup (knows : resolver.Knows known) (span : Span) :
    (resolver.openGroup span).Knows known := by
  unfold Resolver.openGroup
  split
  · next kind inserting =>
    have noRow columns (row : kind = .rowTuple columns) : columns.Within known :=
      absurd row (insertKind?_ne_rowTuple inserting columns)
    exact ⟨.inner (.start noRow span) knows.groups, knows.inserted⟩
  · split
    · exact ⟨.inner (.start nofun span) knows.groups, knows.inserted⟩
    · obtain ⟨isInner, current⟩ := knows.groups.head
      have around := knows.groups.mapHead (f := ({ · with tuple := none })) rfl
        fun group => group.dropTuple
      exact ⟨.inner (.start (innerKind current) span) around, knows.inserted⟩

theorem closeGroup {span : Span} (knows : resolver.Knows known)
    (closed : resolver.closeGroup span = .ok next) : next.Knows known := by
  obtain ⟨current, outer, insert, callPending, parameters⟩ := resolver
  cases outer with
  | nil => cases closed
  | cons parent outer =>
      cases closed
      cases knows.groups with
      | inner inside around =>
          refine ⟨around.mapHead (f := (·.absorb current)) ?_ fun group => group.absorb inside, ?_⟩
          · rw [Group.absorb_eq]
          · unfold insertColumns
            dsimp only
            split
            · cases insert with
              | none => exact .nil
              | some head => exact inside.columns
            · exact knows.inserted

theorem endStatement (knows : resolver.Knows known) : resolver.endStatement.Knows known := by
  have bounded : (resolver.mapCurrent Group.boundary).Knows known :=
    knows.mapCurrent (fun _ => rfl) fun group => group.boundary
  unfold Resolver.endStatement
  split
  · exact ⟨bounded.groups, .nil⟩
  · exact bounded

theorem accept (knows : resolver.Knows known)
    (named : callFollows = false → ∀ column ∈ token.columnName, known column)
    (accepted : resolver.accept token callFollows = .ok next) : next.Knows known := by
  obtain ⟨kind, text, span⟩ := token
  cases kind with
  | identifier | quotedIdentifier =>
      cases accepted
      exact knows.name named
  | keyword keyword =>
      cases accepted
      exact knows.keyword keyword
  | operator | quoted | number =>
      cases accepted
      exact knows
  | marker =>
      obtain ⟨column, -, rfl⟩ := marker_eq_ok accepted
      exact ⟨knows.groups, knows.inserted⟩
  | leftParen =>
      cases accepted
      exact knows.openGroup span
  | rightParen => exact knows.closeGroup accepted
  | comma =>
      cases accepted
      exact knows.mapCurrent (fun _ => rfl) fun group => group.nextItem
  | semicolon =>
      cases accepted
      exact knows.endStatement

/-- Behind the end of a statement, markers may take no column from before it. -/
theorem ended (knows : resolver.Knows known) (top : resolver.outer = []) :
    resolver.endStatement.Knows other := by
  obtain ⟨current, outer, insert, callPending, parameters⟩ := resolver
  cases top
  cases knows.groups with
  | root kind =>
      have forgets : current.boundary.Knows other false :=
        ⟨nofun, nofun, fun columns row => (nomatch kind.symm.trans row), nofun, nofun⟩
      exact ⟨.root kind forgets, .nil⟩
  | inner inside around => cases around

end Knows

end Resolver

end

/-- A name among the tokens before, of a column that markers behind them may take: it calls no
function, and the statement that it stands in has not ended. -/
def Available (before rest : List Token) (column : String) : Prop :=
  ∃ earlier name between, before = earlier ++ name :: between ∧ name.columnName = some column ∧
    Resolver.opensGroup (between ++ rest) = false ∧
    Throughout
      (fun inner token => token.kind = .semicolon → openParens (earlier ++ name :: inner) ≠ [])
      between

namespace Available

variable {before rest : List Token} {token : Token} {column : String}

theorem of_name (named : token.columnName = some column)
    (noCall : Resolver.opensGroup rest = false) : Available (before ++ [token]) rest column :=
  ⟨before, token, [], rfl, named, noCall, throughout_nil⟩

theorem concat (available : Available before (token :: rest) column)
    (lasts : token.kind = .semicolon → openParens before ≠ []) :
    Available (before ++ [token]) rest column := by
  obtain ⟨earlier, name, between, rfl, named, noCall, inside⟩ := available
  refine ⟨earlier, name, between ++ [token], ?_, named, ?_, throughout_concat.mpr ⟨inside, lasts⟩⟩
  · rw [List.append_assoc, List.cons_append]
  · rwa [List.append_assoc, List.singleton_append]

end Available

/-- Behind some tokens, every column that a marker may bind to stands among them. -/
theorem Resolver.knows_of_runBefore {before rest : List Token} {resolver : Resolver}
    (ran : runBefore rest initial before = .ok resolver) :
    Tracks before resolver ∧ resolver.Knows (Available before rest) := by
  -- From the end, since a name stays available with each token that does not end the statement.
  induction before using List.reverseRecOn generalizing rest resolver with
  | nil =>
      cases ran
      exact ⟨.initial, .initial⟩
  | append_singleton before token ih =>
      obtain ⟨middle, reached, accepted⟩ := exists_of_runBefore_concat ran
      obtain ⟨tracks, knows⟩ := ih reached
      refine ⟨tracks.accept accepted, ?_⟩
      by_cases ends : token.kind = .semicolon ∧ openParens before = []
      · have ended : resolver = middle.endStatement := by
          unfold Resolver.accept at accepted
          rw [ends.1] at accepted
          exact (Except.ok.inj accepted).symm
        rw [ended]
        exact knows.ended (tracks.outer_eq_nil_iff.mpr ends.2)
      · have lasts : token.kind = .semicolon → openParens before ≠ [] :=
          fun semicolon none => ends ⟨semicolon, none⟩
        refine (knows.mono fun column available => available.concat lasts).accept ?_ accepted
        exact fun noCall column named => .of_name named noCall

theorem kind_of_columnName {token : Token} {column : String}
    (named : token.columnName = some column) :
    token.kind = .identifier ∨ token.kind = .quotedIdentifier := by
  unfold Token.columnName at named
  split at named
  · next kind => exact .inl kind
  · next kind => exact .inr kind
  · cases named

/-- The column of each parameter is that of a name before its marker in the same statement, which
no parenthesis follows. -/
theorem column_of_name_before {text : String} {found : List Parameter} {parameter : Parameter}
    (resolved : resolve text = .ok found) (listed : parameter ∈ found) :
    ∃ before name between marker after,
      tokenize text = .ok (before ++ name :: (between ++ marker :: after)) ∧
      (name.kind = .identifier ∨ name.kind = .quotedIdentifier) ∧
      name.columnName = some parameter.column ∧
      marker.isMarker = true ∧ marker.span = parameter.span ∧
      name.span.stop ≤ parameter.span.start ∧
      Resolver.opensGroup (between ++ marker :: after) = false ∧
      ∀ inner semicolon, inner ++ [semicolon] <+: between → semicolon.kind = .semicolon →
        openParens (before ++ name :: inner) ≠ [] := by
  obtain ⟨ordinal, listed⟩ := List.mem_iff_getElem?.mp listed
  obtain ⟨earlier, marker, after, tokenized, marked, -, place, seen⟩ :=
    (getElem?_of_resolve_iff resolved).mp listed
  have span : parameter.span = marker.span := (Prod.mk.inj place).2
  have resolvedTokens := (resolve_of_tokenize tokenized).symm.trans resolved
  have clean : Clean (earlier ++ marker :: after) :=
    (resolveTokens_eq_ok_iff.mp ⟨found, resolvedTokens⟩).1
  obtain ⟨resolver, ran, -⟩ :=
    Resolver.runBefore_of_clean (marker :: after) (throughout_append.mp clean).1
  rw [Resolver.columnAfter_of_runBefore marked ran] at seen
  obtain ⟨before, name, between, rfl, named, noCall, inside⟩ :=
    (Resolver.knows_of_runBefore ran).2.column? seen
  rw [List.append_assoc, List.cons_append] at tokenized
  have precedes : name.span.Precedes marker.span := by
    have order := scan_tokens_pairwise_precedes text
    rw [(tokenize_eq_ok tokenized).2] at order
    refine (List.pairwise_cons.mp (List.pairwise_append.mp order).2.1).1 marker ?_
    exact List.mem_append_right _ List.mem_cons_self
  exact ⟨before, name, between, marker, after, tokenized, kind_of_columnName named, named, marked,
    span.symm, span ▸ precedes.stop_le, noCall, inside⟩

theorem column_of_name_before_in_insert :
    resolve "SET a = 1; INSERT INTO t (b) VALUES (f(?))" = .ok [⟨0, "B", ⟨39, 40⟩⟩] ∧
    ∃ before name rest,
      tokenize "SET a = 1; INSERT INTO t (b) VALUES (f(?))" = .ok (before ++ name :: rest) ∧
      name.columnName = some "B" ∧ name.span.stop ≤ 39 := by
  have resolved : resolve "SET a = 1; INSERT INTO t (b) VALUES (f(?))" =
      .ok [⟨0, "B", ⟨39, 40⟩⟩] := by
    cbv
  obtain ⟨before, name, between, marker, after, tokenized, -, named, -, -, ends, -⟩ :=
    column_of_name_before resolved List.mem_cons_self
  exact ⟨resolved, before, name, between ++ marker :: after, tokenized, named, ends⟩

end BindStream
