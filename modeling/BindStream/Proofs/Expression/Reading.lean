import BindStream.Proofs.Insertion.Syntax
import BindStream.Proofs.Predicate.Items
import BindStream.Proofs.Resolver.Spelling

namespace BindStream

/-! Expressions and other parts of a statement, read in any group of some kind, inside an `INSERT`
or outside. -/

namespace Expression

def isCall : Expression → Bool
  | call _ _ => true
  | _ => false

/-- What reading an expression makes of a group: a call hides the nearest column from what
follows. -/
def leaves (expression : Expression) (group : Group) : Group :=
  if expression.isCall then { group with nearest := none } else group

@[simp] theorem kind_leaves (expression : Expression) (group : Group) :
    (expression.leaves group).kind = group.kind := by
  unfold leaves
  split <;> rfl

theorem betweenPending_leaves (expression : Expression) (group : Group) :
    (expression.leaves group).betweenPending = group.betweenPending := by
  unfold leaves
  split <;> rfl

theorem nearest_leaves (expression : Expression) (group : Group) :
    (expression.leaves group).nearest = if expression.isCall then none else group.nearest := by
  unfold leaves
  split <;> rfl

theorem markers_of_mem {arguments : List Expression} {argument : Expression}
    (member : argument ∈ arguments) (marked : argument.markers ≠ 0) :
    markersAmong arguments ≠ 0 := by
  induction arguments with
  | nil => cases member
  | cons first arguments ih =>
      rw [markersAmong]
      rcases List.mem_cons.mp member with rfl | later
      · omega
      · have := ih later
        omega

end Expression

namespace Resolver

/-- A resolver that is not about to open a call. -/
def reading (insert : Option InsertHead) (group : Group) (outer : List Group)
    (parameters : List Parameter) : Resolver where
  current := group
  outer := outer
  insert := insert
  callPending := false
  parameters := parameters

/-- Read in any group of one kind, some lexemes bind their markers to columns and leave a group of
another kind. -/
def Reads (insert : Option InsertHead) (outer : List Group) (before : Group → Prop)
    (lexemes : List Lexeme) (columns : List String) (after : Group → Prop) : Prop :=
  ∀ (group : Group) (parameters : List Parameter) (rest : List Token),
    before group → opensGroup rest = false →
    ∃ (left : Group) (found : List Parameter),
      (reading insert group outer parameters).run (lexemes.map Lexeme.token ++ rest) =
        (reading insert left outer (parameters ++ found)).run rest ∧
      found.map Parameter.column = columns ∧ after left

/-- Read in any group of one kind, some lexemes come to a marker that has no column before they bind
any. -/
def Refuses (insert : Option InsertHead) (outer : List Group) (before : Group → Prop)
    (lexemes : List Lexeme) : Prop :=
  ∀ (group : Group) (parameters : List Parameter) (rest : List Token), before group →
    (reading insert group outer parameters).run (lexemes.map Lexeme.token ++ rest) =
      .error (.unresolvedMarker parameters.length default)

variable {insert : Option InsertHead} {outer : List Group} {before after : Group → Prop}

namespace Reads

variable {α : Type} {lexemes : List Lexeme} {columns : List String}

theorem of_forall (reads : ∀ group, before group →
      Reads insert outer (· = group) lexemes columns after) :
    Reads insert outer before lexemes columns after :=
  fun group parameters rest ready ends => reads group ready group parameters rest rfl ends

theorem weaken {weaker : Group → Prop} (reads : Reads insert outer before lexemes columns after)
    (implies : ∀ group, after group → weaker group) :
    Reads insert outer before lexemes columns weaker := by
  intro group parameters rest ready ends
  obtain ⟨left, found, ran, bound, leaves⟩ := reads group parameters rest ready ends
  exact ⟨left, found, ran, bound, implies left leaves⟩

theorem nil (keeps : ∀ group, before group → after group) :
    Reads insert outer before [] [] after := by
  intro group parameters rest ready _
  refine ⟨group, [], ?_, rfl, keeps group ready⟩
  rw [List.append_nil]
  rfl

theorem append {middle : Group → Prop} {others : List Lexeme} {later : List String}
    (first : Reads insert outer before lexemes columns middle)
    (second : Reads insert outer middle others later after)
    (apart : ∀ rest, opensGroup rest = false →
      opensGroup (others.map Lexeme.token ++ rest) = false) :
    Reads insert outer before (lexemes ++ others) (columns ++ later) after := by
  intro group parameters rest ready ends
  obtain ⟨between, found, ran, bound, met⟩ :=
    first group parameters (others.map Lexeme.token ++ rest) ready (apart rest ends)
  obtain ⟨left, more, ranOn, boundToo, leaves⟩ :=
    second between (parameters ++ found) rest met ends
  refine ⟨left, found ++ more, ?_, ?_, leaves⟩
  · rw [List.map_append, List.append_assoc, ran, ranOn, List.append_assoc]
  · rw [List.map_append, bound, boundToo]

theorem comma {middle : Group → Prop} (keeps : ∀ group, before group → middle group.nextItem)
    (reads : Reads insert outer middle lexemes columns after) :
    Reads insert outer before (.comma :: lexemes) columns after := by
  intro group parameters rest ready ends
  obtain ⟨left, found, ran, bound, leaves⟩ :=
    reads group.nextItem parameters rest (keeps group ready) ends
  exact ⟨left, found, run_comma.trans ran, bound, leaves⟩

/-- What is expected of a group beside an item depends on the items before. -/
theorem commaSeparated {items : List α} {lexemes : α → List Lexeme}
    {columns : α → List String} (before after : List α → Group → Prop)
    (reads : ∀ done item later, done ++ item :: later = items →
      Reads insert outer (before done) (lexemes item) (columns item) (after (done ++ [item])))
    (comma : ∀ done group, after done group → before done group.nextItem)
    (nonempty : items ≠ []) :
    Reads insert outer (before []) (BindStream.commaSeparated (items.map lexemes))
      (items.flatMap columns) (after items) := by
  have remaining (done later : List α) (all : done ++ later = items) (some : later ≠ []) :
      Reads insert outer (before done) (BindStream.commaSeparated (later.map lexemes))
        (later.flatMap columns) (after items) := by
    -- The items that are done move over one by one, up to all of them.
    induction later generalizing done with
    | nil => exact absurd rfl some
    | cons item later ih =>
        have here := reads done item later all
        cases later with
        | nil =>
            rw [List.flatMap_singleton]
            exact all ▸ here
        | cons next later =>
            have behind := ih (done ++ [item]) (List.append_cons .. ▸ all)
              (List.cons_ne_nil next later)
            exact here.append (behind.comma (comma _)) fun _ _ => rfl
  exact remaining [] items rfl nonempty

theorem cons {lexeme : Lexeme} {group next : Group} (turns : Turns lexeme group next)
    (reads : Reads none outer (· = next) lexemes columns after) :
    Reads none outer (· = group) (lexeme :: lexemes) columns after := by
  rintro _ parameters rest rfl ends
  obtain ⟨left, found, ran, bound, leaves⟩ := reads next parameters rest rfl ends
  exact ⟨left, found, (turns outer parameters _).trans ran, bound, leaves⟩

/-- Parentheses that call no function and open no row of an `INSERT`. -/
theorem parenthesized {group : Group}
    (reads : Reads none ({ group with tuple := none } :: outer)
      (· = .start (innerKind group) default) lexemes columns after) :
    Reads none outer (· = group) (.opening :: (lexemes ++ [.closing])) columns
      fun left => ∃ inner, after inner ∧ left = Group.absorb { group with tuple := none } inner := by
  rintro _ parameters rest rfl -
  obtain ⟨inner, found, ran, bound, leaves⟩ :=
    reads _ parameters (Lexeme.closing.token :: rest) rfl rfl
  refine ⟨_, found, ?_, bound, inner, leaves, rfl⟩
  rw [List.map_cons, List.map_append, List.cons_append, List.append_assoc]
  exact run_opening.trans (ran.trans (run_closing rfl (.inl rfl)))

/-- What is refused behind some lexemes is refused by the number of their markers. -/
theorem run_refuses {middle : Group → Prop} {others : List Lexeme} {group : Group}
    (first : Reads insert outer before lexemes columns middle)
    (second : Refuses insert outer middle others)
    (apart : ∀ rest, opensGroup (others.map Lexeme.token ++ rest) = false) (ready : before group)
    (rest : List Token) :
    (reading insert group outer []).run ((lexemes ++ others).map Lexeme.token ++ rest) =
      .error (.unresolvedMarker columns.length default) := by
  obtain ⟨between, found, ran, bound, met⟩ :=
    first group [] (others.map Lexeme.token ++ rest) ready (apart rest)
  have counted : ([] ++ found).length = columns.length := by
    rw [← bound, List.nil_append, List.length_map]
  rw [List.map_append, List.append_assoc, ran, second between _ rest met, counted]

/-- Tokens that spell some lexemes run as the lexemes do, whatever comes behind them. -/
theorem runBefore {tokens rest : List Token} {resolver : Resolver} {group : Group}
    {parameters : List Parameter} (reads : Reads insert outer before lexemes columns after)
    (spell : Spell tokens lexemes) (ends : opensGroup rest = false)
    (same : resolver.mapSpans (fun _ => default) = reading insert group outer parameters)
    (ready : before group) :
    ∃ (next : Resolver) (left : Group) (found : List Parameter),
      Resolver.runBefore rest resolver tokens = .ok next ∧
      next.mapSpans (fun _ => default) = reading insert left outer (parameters ++ found) ∧
      found.map Parameter.column = columns ∧ after left := by
  obtain ⟨left, found, ran, bound, leaves⟩ := reads group parameters [] ready rfl
  rw [List.append_nil, run_eq_runBefore] at ran
  have outcome := runBefore_of_spell resolver spell ends
  rw [same, ran] at outcome
  cases reached : Resolver.runBefore rest resolver tokens with
  | error failure =>
      rw [reached] at outcome
      cases outcome
  | ok next =>
      rw [reached] at outcome
      have placed : reading insert left outer (parameters ++ found) =
          next.mapSpans fun _ => default := Except.ok.inj outcome
      exact ⟨next, left, found, rfl, placed.symm, bound, leaves⟩

end Reads

theorem Refuses.cons {lexeme : Lexeme} {lexemes : List Lexeme} {group next : Group}
    (turns : Turns lexeme group next) (refuses : Refuses none outer (· = next) lexemes) :
    Refuses none outer (· = group) (lexeme :: lexemes) := by
  rintro _ parameters rest rfl
  exact (turns outer parameters _).trans (refuses next parameters rest rfl)

/-! Expressions. -/

/-- A call of which the arguments have been read. -/
theorem run_reading_call {group inner : Group} {parameters found : List Parameter}
    {arguments : List Lexeme} {rest : List Token} (function : Name)
    (noRow : (reading insert group outer parameters).insertKind? = none)
    (noList : insert = none ∨ inner.kind ≠ .columnList)
    (ran : (reading insert (.start .call default) (group :: outer) parameters).run
        (arguments.map Lexeme.token ++ Lexeme.closing.token :: rest) =
      (reading insert inner (group :: outer) found).run (Lexeme.closing.token :: rest)) :
    (reading insert group outer parameters).run
        ((function.lexeme :: .opening :: (arguments ++ [.closing])).map Lexeme.token ++ rest) =
      (reading insert (group.absorb inner) outer found).run rest := by
  rw [List.map_cons, List.map_cons, List.map_append, List.cons_append, List.cons_append,
    List.append_assoc]
  exact (run_function function noRow).trans (ran.trans (run_closing rfl noList))

/-- The group of a call's arguments that have shown no column. -/
structure HollowCall (group : Group) : Prop where
  kind : group.kind = .call
  transparent : group.Transparent

namespace HollowCall

variable {group : Group}

theorem start : HollowCall (.start .call default) := ⟨rfl, .inr rfl, rfl, rfl, rfl⟩

theorem nextItem (hollow : HollowCall group) : HollowCall group.nextItem :=
  ⟨hollow.kind, hollow.transparent.nextItem⟩

theorem leaves (hollow : HollowCall group) (expression : Expression) :
    HollowCall (expression.leaves group) := by
  obtain ⟨kind, transparent⟩ := hollow
  unfold Expression.leaves
  split
  · exact ⟨kind, transparent.kind, rfl, transparent.bounded, transparent.firstColumn⟩
  · exact ⟨kind, transparent⟩

theorem noList (hollow : HollowCall group) : group.kind ≠ .columnList := by
  rw [hollow.kind]
  decide

theorem absorb {inner : Group} (hollow : HollowCall inner) (group : Group) :
    group.absorb inner = { group with nearest := none } := by
  have single : ¬(0 < inner.item ∧ inner.kind ≠ .call) := fun several =>
    several.2 hollow.kind
  rw [Group.absorb_eq, hollow.transparent.firstColumn, if_neg single, Option.or_none]
  rfl

end HollowCall

/-- The columns that the rows of an `INSERT` bind to. -/
def listed (insert : Option InsertHead) : Columns := (insert.bind InsertHead.columns).getD []

variable {group : Group}

/-- An expression binds its markers to the column seen where it begins. -/
theorem reads_expression (expression : Expression) {column : String}
    (seen : expression.markers ≠ 0 → columnIn (listed insert) (group :: outer) = some column)
    (noRow : (reading insert group outer []).insertKind? = none) :
    Reads insert outer (· = group) expression.lexemes
      (List.replicate expression.markers column) (· = expression.leaves group) := by
  induction expression generalizing group outer with
  | marker =>
      rintro group parameters rest rfl -
      exact ⟨_, [bound parameters column], run_marker (seen (by decide)), rfl, rfl⟩
  | literal value =>
      rintro group parameters rest rfl -
      refine ⟨_, [], ?_, rfl, rfl⟩
      rw [List.append_nil]
      exact run_literal value
  | call function arguments ih =>
      have inside : Reads insert (group :: outer) HollowCall
          (commaSeparated (arguments.map Expression.lexemes))
          (arguments.flatMap fun argument => List.replicate argument.markers column)
          HollowCall := by
        by_cases empty : arguments = []
        · rw [empty]
          exact .nil fun _ hollow => hollow
        · refine .commaSeparated (fun _ => HollowCall) (fun _ => HollowCall)
            (fun _ argument _ all => .of_forall fun inner hollow => ?_)
            (fun _ _ hollow => hollow.nextItem) empty
          have member : argument ∈ arguments := all ▸ List.mem_append_cons_self
          have seenInside (marked : argument.markers ≠ 0) :=
            (columnIn_of_transparent hollow.transparent _).trans
              (seen (Expression.markers_of_mem member marked))
          refine (ih argument member seenInside rfl).weaken ?_
          rintro left rfl
          exact hollow.leaves argument
      rintro group parameters rest rfl -
      obtain ⟨inner, found, ran, columns, hollow⟩ :=
        inside (.start .call default) parameters (Lexeme.closing.token :: rest) .start rfl
      refine ⟨_, found, ?_, ?_, hollow.absorb _⟩
      · rw [Expression.lexemes, Expression.lexemesAmong_eq_map]
        exact run_reading_call function noRow (.inr hollow.noList) ran
      · rw [columns, Expression.markers, Expression.replicate_markersAmong]

/-- The arguments before the first one with a marker are read, and that one is refused. -/
theorem refuses_arguments (arguments : List Expression)
    (refuses : ∀ argument ∈ arguments, argument.markers ≠ 0 →
      Refuses insert outer HollowCall argument.lexemes)
    (inside : ∀ group, (reading insert group outer []).insertKind? = none)
    (marked : Expression.markersAmong arguments ≠ 0) :
    Refuses insert outer HollowCall
      (commaSeparated (arguments.map Expression.lexemes) ++ [.closing]) := by
  induction arguments with
  | nil => exact absurd rfl marked
  | cons argument arguments ih =>
      intro group parameters rest hollow
      by_cases here : argument.markers ≠ 0
      · obtain ⟨later, split⟩ : ∃ later,
            commaSeparated ((argument :: arguments).map Expression.lexemes) =
              argument.lexemes ++ later := by
          cases arguments with
          | nil => exact ⟨[], (List.append_nil _).symm⟩
          | cons next arguments => exact ⟨_, rfl⟩
        rw [split, List.append_assoc, List.map_append, List.append_assoc]
        exact refuses argument List.mem_cons_self here group parameters _ hollow
      · have unmarked : argument.markers = 0 := not_not.mp here
        have remaining : Expression.markersAmong arguments ≠ 0 := by
          rw [Expression.markersAmong] at marked
          omega
        cases arguments with
        | nil => exact absurd rfl remaining
        | cons next arguments =>
            have unseen : Reads insert outer (· = group) argument.lexemes
                (List.replicate argument.markers "") (· = argument.leaves group) :=
              reads_expression argument (fun some => absurd unmarked some) (inside group)
            obtain ⟨left, found, ran, columns, rfl⟩ := unseen group parameters
              ((Lexeme.comma :: (commaSeparated ((next :: arguments).map Expression.lexemes) ++
                [.closing])).map Lexeme.token ++ rest) rfl rfl
            have none_found : found = [] := by
              rw [unmarked] at columns
              exact List.map_eq_nil_iff.mp columns
            have behind := ih (fun other member => refuses other (List.mem_cons_of_mem _ member))
              remaining (argument.leaves group).nextItem parameters rest
              (hollow.leaves argument).nextItem
            rw [List.map_cons, List.map_cons, commaSeparated, List.append_assoc,
              List.cons_append, List.map_append, List.append_assoc, ← List.map_cons, ran,
              none_found, List.append_nil, ← behind]
            exact run_comma

/-- An expression with markers is refused where no column is seen. -/
theorem refuses_expression (expression : Expression)
    (unseen : columnIn (listed insert) (group :: outer) = none)
    (noRow : (reading insert group outer []).insertKind? = none)
    (marked : expression.markers ≠ 0) :
    Refuses insert outer (· = group) expression.lexemes := by
  induction expression generalizing group outer with
  | marker =>
      rintro group parameters rest rfl
      have missing : (reading insert group outer parameters).column? = none := unseen
      apply run_cons_of_error
      change (reading insert group outer parameters).marker default = _
      rw [Resolver.marker, missing]
      rfl
  | literal value => exact absurd rfl marked
  | call function arguments ih =>
      rintro group parameters rest rfl
      have inside : Refuses insert (group :: outer) HollowCall
          (commaSeparated (arguments.map Expression.lexemes) ++ [.closing]) := by
        refine refuses_arguments arguments ?_ (fun _ => rfl) marked
        intro argument member marked inner parameters rest hollow
        have unseenInside := (columnIn_of_transparent hollow.transparent _).trans unseen
        exact ih argument member unseenInside rfl marked inner parameters rest rfl
      rw [Expression.lexemes, Expression.lexemesAmong_eq_map, List.map_cons, List.map_cons,
        List.cons_append, List.cons_append]
      have calls : (reading insert group outer parameters).insertKind? = none := noRow
      exact (run_function function calls).trans
        (inside (.start .call default) parameters rest .start)

/-! Rows. -/

/-- The group of a row, which binds by position. -/
structure InRow (kind : GroupKind) (group : Group) : Prop where
  kind : group.kind = kind
  bounded : group.bounded = false

/-- The items of a row bind their markers to the columns at the same places. -/
theorem reads_items {α : Type} {kind : GroupKind} {parent : Group} (items : List α)
    (column : α → String) (expression : α → Expression) (nonempty : items ≠ [])
    (byPlace : ∀ group, InRow kind group →
      group.positional (listed insert) = some (items.map fun item => some (column item))) :
    Reads insert (parent :: outer) (· = .start kind default)
      (commaSeparated (items.map fun item => (expression item).lexemes))
      (items.flatMap fun item => List.replicate (expression item).markers (column item))
      (InRow kind) := by
  have counted : Reads insert (parent :: outer) (fun group => group.item = 0 ∧ InRow kind group)
      (commaSeparated (items.map fun item => (expression item).lexemes))
      (items.flatMap fun item => List.replicate (expression item).markers (column item))
      (fun group => group.item + 1 = items.length ∧ InRow kind group) := by
    refine .commaSeparated (fun done group => group.item = done.length ∧ InRow kind group)
      (fun done group => group.item + 1 = done.length ∧ InRow kind group)
      (fun done item later all => .of_forall ?_) ?_ nonempty
    · rintro group ⟨place, row⟩
      have seen : columnIn (listed insert) (group :: parent :: outer) = some (column item) := by
        rw [columnIn, byPlace group row, place, ← all]
        simp
      have next : group.item + 1 = (done ++ [item]).length := by
        rw [List.length_append, place]
        rfl
      refine (reads_expression (expression item) (fun _ => seen) rfl).weaken ?_
      rintro left rfl
      unfold Expression.leaves
      split
      · exact ⟨next, row.kind, row.bounded⟩
      · exact ⟨next, row⟩
    · rintro done group ⟨place, row⟩
      exact ⟨place, row.kind, row.bounded⟩
  rintro _ parameters rest rfl ends
  obtain ⟨left, found, ran, bound, -, row⟩ :=
    counted (.start kind default) parameters rest ⟨rfl, rfl, rfl⟩ ends
  exact ⟨left, found, ran, bound, row⟩

/-- A row that is as long as the columns that it binds to. -/
theorem reads_row_items {α : Type} {kind : GroupKind} {parent : Group} {places : List α}
    {row : List Expression} (column : α → String) (shaped : row.length = places.length)
    (nonempty : places ≠ [])
    (byPlace : ∀ group, InRow kind group →
      group.positional (listed insert) = some (places.map fun place => some (column place))) :
    Reads insert (parent :: outer) (· = .start kind default)
      (commaSeparated (row.map Expression.lexemes))
      ((places.zip row).flatMap fun pair => List.replicate pair.2.markers (column pair.1))
      (InRow kind) := by
  have heads : (places.zip row).map Prod.fst = places := List.map_fst_zip shaped.ge
  have tails : (places.zip row).map Prod.snd = row := List.map_snd_zip shaped.le
  have columns : places.map (fun place => some (column place)) =
      (places.zip row).map fun pair => some (column pair.1) :=
    (congrArg _ heads.symm).trans List.map_map
  have written : row.map Expression.lexemes =
      (places.zip row).map fun pair => pair.2.lexemes :=
    (congrArg _ tails.symm).trans List.map_map
  have filled : places.zip row ≠ [] := by
    intro empty
    rw [empty] at heads
    exact nonempty heads.symm
  rw [written]
  refine reads_items (places.zip row) (fun pair => column pair.1) Prod.snd filled ?_
  intro group inRow
  rw [byPlace group inRow, columns]

end Resolver

end BindStream
