import Mathlib
import BindStream.Proofs.Insertion.Cells

namespace BindStream

/-! The items of a row of `VALUES`. A marker that is an item has the column at its place, unless an
item before it brings a boundary of a clause into the row. -/

open Resolver

/-- The tokens of an `INSERT` up to one of its rows, with the statements before it. -/
structure Heading (columns : List Name) where
  earlier : List Token
  lead : List Token
  insertWord : Token
  target : List Token
  listOpening : Token
  list : List Token
  listClosing : Token
  modifiers : List Token
  valuesWord : Token
  rows : List Token
  nonempty : columns ≠ []
  earlierBalanced : Balanced earlier
  earlierEnds : ∀ last ∈ earlier.getLast?, last.kind = .semicolon
  leadBalanced : Balanced lead
  leadPlain : ∀ token ∈ lead, token.kind ≠ .keyword .INSERT
  inserts : insertWord.kind = .keyword .INSERT
  targetIntroduces : ∀ token ∈ target, token.introduces = true
  listOpens : listOpening.kind = .leftParen
  listed : Spell list (commaSeparated (columns.map fun column => [column.lexeme]))
  listCloses : listClosing.kind = .rightParen
  modifiersIntroduce : ∀ token ∈ modifiers, token.introduces = true
  opensRows : valuesWord.kind = .keyword .VALUES
  rowsBefore : RowsBefore rows

namespace Heading

variable {columns : List Name}

def tokens (heading : Heading columns) : List Token :=
  (heading.earlier ++ heading.lead) ++ ([heading.insertWord] ++ (heading.target ++
    (heading.listOpening :: (heading.list ++ [heading.listClosing]) ++ (heading.modifiers ++
      ([heading.valuesWord] ++ heading.rows)))))

theorem atTop (heading : Heading columns) (rest : List Token) :
    AtTop (some ⟨some (columns.map fun column => some column.column), some .VALUES⟩)
      (skimBefore rest initial heading.tokens) := by
  rw [tokens, skimBefore_append, skimBefore_append, skimBefore_append, skimBefore_append,
    skimBefore_append, skimBefore_append]
  refine AtTop.rows (AtTop.values (AtTop.introduction (AtTop.columnList (AtTop.introduction
    (AtTop.insert_word (atTop_statements ?_ ?_ ?_ ?_) ?_) ?_) ?_ ?_ ?_ ?_) ?_) ?_) ?_
  · exact heading.earlierBalanced
  · exact heading.earlierEnds
  · exact heading.leadBalanced
  · exact heading.leadPlain
  · exact heading.inserts
  · exact heading.targetIntroduces
  · exact heading.nonempty
  · exact heading.listOpens
  · exact heading.listed
  · exact heading.listCloses
  · exact heading.modifiersIntroduce
  · exact heading.opensRows
  · exact heading.rowsBefore

end Heading

/-- The tokens of some items, each with the token that ends it. -/
def cellTokens (cells : List (List Token × Token)) : List Token :=
  cells.flatMap fun cell => cell.1 ++ [cell.2]

section

variable {cells : List (List Token × Token)} {cell : List Token × Token}

theorem cellTokens_concat :
    cellTokens (cells ++ [cell]) = cellTokens cells ++ (cell.1 ++ [cell.2]) := by
  rw [cellTokens, List.flatMap_append, List.flatMap_singleton]
  rfl

theorem cellTokens_split {j : Nat} (listed : cells[j]? = some cell) :
    cellTokens cells = cellTokens (cells.take j) ++ cell.1 ++
      cell.2 :: cellTokens (cells.drop (j + 1)) := by
  obtain ⟨inside, rfl⟩ := List.getElem?_eq_some_iff.mp listed
  calc cellTokens cells = cellTokens (cells.take j) ++ cellTokens (cells.drop j) := by
        rw [cellTokens, cellTokens, cellTokens, ← List.flatMap_append, List.take_append_drop]
    _ = _ := by
        rw [List.drop_eq_getElem_cons inside, cellTokens, cellTokens, List.flatMap_cons,
          List.append_assoc, List.append_assoc]
        rfl

/-- Behind some items of a row the resolver is at the next one. -/
theorem Resolver.AtCell.afterCells {columns : Columns} {place : Nat} {divided : Bool}
    {resolver : Resolver} {rest : List Token} (row : AtCell columns place divided resolver)
    (isCell : ∀ cell ∈ cells, IsCell cell.1) (separates : ∀ cell ∈ cells, cell.2.kind = .comma) :
    AtCell columns (place + cells.length) (divided || (cells.map Prod.fst).any divides)
      (skimBefore rest resolver (cellTokens cells)) := by
  induction cells using List.reverseRecOn generalizing rest with
  | nil =>
      rw [List.map_nil, List.any_nil, Bool.or_false]
      exact row
  | append_singleton cells cell ih =>
      rw [List.forall_mem_append, List.forall_mem_singleton] at isCell separates
      rw [cellTokens_concat, skimBefore_append, List.length_append, List.map_append,
        List.any_append, ← Bool.or_assoc, List.map_singleton, List.any_cons, List.any_nil,
        Bool.or_false]
      exact (ih isCell.1 separates.1).cell isCell.2 separates.2

/-- Where each marker is an item, what holds of the items holds of the markers. -/
theorem throughout_cells {sees : List Token → Prop}
    (ends : ∀ cell ∈ cells, cell.2.isMarker = false)
    (apart : ∀ cell ∈ cells, (∃ marker, cell.1 = [marker]) ∨
      ∀ token ∈ cell.1, token.isMarker = false)
    (seen : ∀ j marker, (cells.map Prod.fst)[j]? = some [marker] → marker.isMarker = true →
      sees (cellTokens (cells.take j))) :
    Throughout (fun before token => token.isMarker = true → sees before) (cellTokens cells) := by
  -- From the end, since each item is judged by those before it.
  induction cells using List.reverseRecOn with
  | nil => exact throughout_nil
  | append_singleton cells cell ih =>
      rw [List.forall_mem_append, List.forall_mem_singleton] at ends apart
      rw [cellTokens_concat, throughout_append]
      constructor
      · refine ih ends.1 apart.1 fun j marker listed marked => ?_
        have inside : j < cells.length := by
          rw [← List.length_map Prod.fst]
          exact (List.getElem?_eq_some_iff.mp listed).1
        rw [← List.take_append_of_le_length inside.le]
        refine seen j marker ?_ marked
        rw [List.map_append, List.getElem?_append_left (by rwa [List.length_map])]
        exact listed
      · rcases apart.2 with ⟨marker, alone⟩ | unmarked
        · rw [throughout_append]
          have last : ∀ token ∈ [cell.2], token.isMarker = false :=
            List.forall_mem_singleton.mpr ends.2
          refine ⟨?_, throughout_of_unmarked last⟩
          rw [alone, ← List.nil_append [marker], throughout_concat]
          refine ⟨throughout_nil, fun marked => ?_⟩
          have here := seen cells.length marker (by simp [alone]) marked
          rwa [List.take_left, ← List.append_nil (cellTokens cells)] at here
        · refine throughout_of_unmarked fun token member => ?_
          rcases List.mem_append.mp member with inside | last
          · exact unmarked token inside
          · rw [List.mem_singleton.mp last]
            exact ends.2

end

/-- A row of `VALUES` of an `INSERT` in a text. -/
structure RowIn (text : String) where
  columns : List Name
  heading : Heading columns
  opening : Token
  /-- All items but the last one, each with the comma behind it. -/
  cells : List (List Token × Token)
  last : List Token
  closing : Token
  after : List Token
  tokenized : tokenize text = .ok (heading.tokens ++
    opening :: (cellTokens (cells ++ [(last, closing)]) ++ after))
  opens : opening.kind = .leftParen
  isCell : ∀ cell ∈ cells ++ [(last, closing)], IsCell cell.1
  separates : ∀ cell ∈ cells, cell.2.kind = .comma
  closes : closing.kind = .rightParen
  complete : (cells ++ [(last, closing)]).length = columns.length

namespace RowIn

variable {text : String} {j : Nat} {marker : Token} {found : List Parameter}

/-- All items, each with the token that ends it. -/
def ended (row : RowIn text) : List (List Token × Token) := row.cells ++ [(row.last, row.closing)]

def items (row : RowIn text) : List (List Token) := row.ended.map Prod.fst

/-- The tokens before an item. -/
def before (row : RowIn text) (j : Nat) : List Token :=
  row.heading.tokens ++ row.opening :: cellTokens (row.ended.take j)

/-- An item before this one brings a boundary of a clause into the row. -/
def dividedBefore (row : RowIn text) (j : Nat) : Bool := (row.items.take j).any divides

theorem columnAfter_before (row : RowIn text) (inside : j < row.columns.length) :
    columnAfter (row.before j) =
      if row.dividedBefore j then none else some row.columns[j].column := by
  have few : j ≤ row.cells.length := by
    have complete := row.complete
    rw [List.length_append, List.length_singleton] at complete
    omega
  have taken : row.ended.take j = row.cells.take j := List.take_append_of_le_length few
  have split : row.before j =
      row.heading.tokens ++ ([row.opening] ++ cellTokens (row.cells.take j)) := by
    rw [before, taken]
    rfl
  have divided : row.dividedBefore j = ((row.cells.take j).map Prod.fst).any divides := by
    rw [dividedBefore, items, ← List.map_take, taken]
  have entered : AtCell (row.columns.map fun column => some column.column)
      (0 + (row.cells.take j).length) (false || ((row.cells.take j).map Prod.fst).any divides)
      (initial.skim (row.before j)) := by
    rw [skim, split, skimBefore_append, skimBefore_append]
    refine ((row.heading.atTop _).opensRow row.opens).afterCells (fun cell member => ?_)
      fun cell member => row.separates cell (List.mem_of_mem_take member)
    exact row.isCell cell (List.mem_append_left _ (List.mem_of_mem_take member))
  rw [List.length_take_of_le few, Nat.zero_add, Bool.false_or, ← divided] at entered
  rw [columnAfter, entered.column?]
  simp [inside]

theorem exists_after (row : RowIn text) (listed : row.items[j]? = some [marker]) :
    ∃ after, tokenize text = .ok (row.before j ++ marker :: after) := by
  rw [items, List.getElem?_map, Option.map_eq_some_iff] at listed
  obtain ⟨⟨item, ending⟩, here, alone⟩ := listed
  cases alone
  refine ⟨ending :: cellTokens (row.ended.drop (j + 1)) ++ row.after, ?_⟩
  rw [row.tokenized, ← ended, cellTokens_split here, before]
  simp

theorem inside (row : RowIn text) {item : List Token} (listed : row.items[j]? = some item) :
    j < row.columns.length := by
  rw [← row.complete, ← ended, ← List.length_map Prod.fst]
  exact (List.getElem?_eq_some_iff.mp listed).1

/-- In a text that resolves, a marker that is an item has the column at its place. -/
theorem parameter_of_resolve (row : RowIn text) (resolved : resolve text = .ok found)
    (listed : row.items[j]? = some [marker]) (marked : marker.isMarker = true) :
    row.dividedBefore j = false ∧
      ∃ parameter, found[(row.before j).countP Token.isMarker]? = some parameter ∧
        row.columns[j]?.map Name.column = some parameter.column := by
  obtain ⟨after, tokenized⟩ := row.exists_after listed
  obtain ⟨parameter, here, seen⟩ := BindStream.parameter_of_resolve tokenized marked resolved
  rw [row.columnAfter_before (row.inside listed)] at seen
  split at seen
  · cases seen
  · next whole =>
      refine ⟨Bool.eq_false_iff.mpr whole, parameter, here, ?_⟩
      rw [List.getElem?_eq_getElem (row.inside listed)]
      exact seen

/-- The text has its markers in this row, each as an item of its own, and its parentheses match. -/
structure Sole (row : RowIn text) : Prop where
  heading : ∀ token ∈ row.heading.tokens, token.isMarker = false
  apart : ∀ cell ∈ row.ended, (∃ marker, cell.1 = [marker]) ∨
    ∀ token ∈ cell.1, token.isMarker = false
  after : ∀ token ∈ row.after, token.isMarker = false
  balanced : ∃ tokens, tokenize text = .ok tokens ∧ Balanced tokens

theorem isMarker_ending (row : RowIn text) : ∀ cell ∈ row.ended, cell.2.isMarker = false := by
  rw [ended, List.forall_mem_append, List.forall_mem_singleton]
  refine ⟨fun cell member => ?_, ?_⟩
  · rw [Token.isMarker, row.separates cell member]
    rfl
  · rw [Token.isMarker, row.closes]
    rfl

theorem sighted_before (row : RowIn text) (sole : row.Sole)
    (whole : ∀ i < j, ∀ marker, row.items[i]? = some [marker] → marker.isMarker = true →
      row.dividedBefore i = false) : Sighted (row.before j) := by
  have opening : ∀ token ∈ [row.opening], token.isMarker = false := by
    rw [List.forall_mem_singleton, Token.isMarker, row.opens]
    rfl
  rw [Sighted, before, throughout_append, ← List.singleton_append, throughout_append]
  refine ⟨throughout_of_unmarked sole.heading, throughout_of_unmarked opening, ?_⟩
  refine throughout_cells (fun cell member => row.isMarker_ending cell (List.mem_of_mem_take member))
    (fun cell member => sole.apart cell (List.mem_of_mem_take member))
    fun i marker listed marked => ?_
  rw [List.map_take, List.getElem?_take, Option.ite_none_right_eq_some] at listed
  obtain ⟨earlier, listed⟩ := listed
  rw [List.take_take, Nat.min_eq_left earlier.le]
  change columnAfter (row.before i) ≠ none
  rw [row.columnAfter_before (row.inside listed), whole i earlier marker listed marked]
  rintro ⟨⟩

theorem tokens_eq (row : RowIn text) {tokens : List Token} (tokenized : tokenize text = .ok tokens) :
    tokens = row.before row.ended.length ++ row.after := by
  cases row.tokenized.symm.trans tokenized
  rw [before, List.take_length, List.append_assoc]
  rfl

/-- The text resolves if no marker comes behind an item that brings a boundary. -/
theorem resolves_iff (row : RowIn text) (sole : row.Sole) :
    (∃ found, resolve text = .ok found) ↔
      ∀ j marker, row.items[j]? = some [marker] → marker.isMarker = true →
        row.dividedBefore j = false := by
  constructor
  · rintro ⟨found, resolved⟩ j marker listed marked
    exact (row.parameter_of_resolve resolved listed marked).1
  · intro whole
    obtain ⟨tokens, tokenized, balanced⟩ := sole.balanced
    rw [resolve_of_tokenize tokenized, resolveTokens_iff_sighted]
    refine ⟨balanced, ?_⟩
    rw [row.tokens_eq tokenized, Sighted, throughout_append]
    exact ⟨row.sighted_before sole fun i _ => whole i, throughout_of_unmarked sole.after⟩

/-- Else it is refused at the first such marker. -/
theorem refused (row : RowIn text) (sole : row.Sole) (listed : row.items[j]? = some [marker])
    (marked : marker.isMarker = true) (divided : row.dividedBefore j = true)
    (first : ∀ i < j, ∀ marker, row.items[i]? = some [marker] → marker.isMarker = true →
      row.dividedBefore i = false) :
    resolve text =
      .error (.unresolvedMarker ((row.before j).countP Token.isMarker) marker.span) := by
  obtain ⟨after, tokenized⟩ := row.exists_after listed
  obtain ⟨tokens, same, balanced⟩ := sole.balanced
  cases same.symm.trans tokenized
  have unseen : columnAfter (row.before j) = none := by
    rw [row.columnAfter_before (row.inside listed), divided]
    rfl
  have closes : NoSurplus (row.before j) := (throughout_append.mp (balanced_iff.mp balanced).1).1
  rw [resolve_of_tokenize tokenized]
  exact resolveTokens_of_offence (clean_iff.mpr ⟨closes, row.sighted_before sole first⟩)
    (.unresolved marked unseen)

end RowIn

/-- In a row of `VALUES`, a marker that is an item has the column at its place and nothing else, if
no item before it brings a boundary of a clause into the row, as a `CASE` or an `OR` does, but not
a `BETWEEN` or what is in parentheses. Behind such an item the row has no columns left. -/
theorem resolve_row_items (text : String) (row : RowIn text) :
    (∀ j (inside : j < row.columns.length), columnAfter (row.before j) =
      if row.dividedBefore j then none else some row.columns[j].column) ∧
    (∀ found, resolve text = .ok found → ∀ j marker, row.items[j]? = some [marker] →
      marker.isMarker = true → row.dividedBefore j = false ∧
        ∃ parameter, found[(row.before j).countP Token.isMarker]? = some parameter ∧
          row.columns[j]?.map Name.column = some parameter.column) ∧
    (row.Sole →
      ((∃ found, resolve text = .ok found) ↔
        ∀ j marker, row.items[j]? = some [marker] → marker.isMarker = true →
          row.dividedBefore j = false) ∧
      ∀ j marker, row.items[j]? = some [marker] → marker.isMarker = true →
        row.dividedBefore j = true →
        (∀ i < j, ∀ other, row.items[i]? = some [other] → other.isMarker = true →
          row.dividedBefore i = false) →
        resolve text =
          .error (.unresolvedMarker ((row.before j).countP Token.isMarker) marker.span)) :=
  ⟨fun _ inside => row.columnAfter_before inside,
    fun _ resolved _ _ listed marked => row.parameter_of_resolve resolved listed marked,
    fun sole => ⟨row.resolves_iff sole,
      fun _ _ listed marked divided first => row.refused sole listed marked divided first⟩⟩

theorem resolve_row_items_of_between :
    (∃ found, resolve "INSERT INTO t (a, b) VALUES (x BETWEEN 1 AND 2, ?)" = .ok found ∧
      ∃ parameter, found[0]? = some parameter ∧ parameter.column = "B") ∧
    resolve "INSERT INTO t (a, b) VALUES (CASE WHEN 1 THEN 2 END, ?)" =
      .error (.unresolvedMarker 0 ⟨53, 54⟩) := by
  let names : List Name := [.word 'a' [] rfl, .word 'b' [] rfl]
  let heading : Heading names := {
    earlier := []
    lead := []
    insertWord := ⟨.keyword .INSERT, "INSERT", ⟨0, 6⟩⟩
    target := [⟨.keyword .INTO, "INTO", ⟨7, 11⟩⟩, ⟨.identifier, "t", ⟨12, 13⟩⟩]
    listOpening := ⟨.leftParen, "(", ⟨14, 15⟩⟩
    list := [⟨.identifier, "a", ⟨15, 16⟩⟩, ⟨.comma, ",", ⟨16, 17⟩⟩,
      ⟨.identifier, "b", ⟨18, 19⟩⟩]
    listClosing := ⟨.rightParen, ")", ⟨19, 20⟩⟩
    modifiers := []
    valuesWord := ⟨.keyword .VALUES, "VALUES", ⟨21, 27⟩⟩
    rows := []
    nonempty := List.cons_ne_nil _ _
    earlierBalanced := rfl
    earlierEnds := nofun
    leadBalanced := rfl
    leadPlain := nofun
    inserts := rfl
    targetIntroduces := by decide
    listOpens := rfl
    listed := by cbv
    listCloses := rfl
    modifiersIntroduce := nofun
    opensRows := rfl
    rowsBefore := .nil }
  constructor
  · let row : RowIn "INSERT INTO t (a, b) VALUES (x BETWEEN 1 AND 2, ?)" := {
      columns := names
      heading := heading
      opening := ⟨.leftParen, "(", ⟨28, 29⟩⟩
      cells := [([⟨.identifier, "x", ⟨29, 30⟩⟩, ⟨.keyword .BETWEEN, "BETWEEN", ⟨31, 38⟩⟩,
        ⟨.number, "1", ⟨39, 40⟩⟩, ⟨.keyword .AND, "AND", ⟨41, 44⟩⟩, ⟨.number, "2", ⟨45, 46⟩⟩],
        ⟨.comma, ",", ⟨46, 47⟩⟩)]
      last := [⟨.marker, "?", ⟨48, 49⟩⟩]
      closing := ⟨.rightParen, ")", ⟨49, 50⟩⟩
      after := []
      tokenized := by cbv
      opens := rfl
      isCell := by decide
      separates := by decide
      closes := rfl
      complete := rfl }
    have sole : row.Sole := {
      heading := by decide
      apart := by
        rintro _ (_ | ⟨_, _ | ⟨_, ⟨⟩⟩⟩)
        · exact .inr (by decide)
        · exact .inl ⟨_, rfl⟩
      after := List.forall_mem_nil _
      balanced := ⟨_, row.tokenized, by decide⟩ }
    obtain ⟨-, placed, outcome⟩ := resolve_row_items _ row
    have whole : ∀ j marker, row.items[j]? = some [marker] → marker.isMarker = true →
        row.dividedBefore j = false := by
      rintro (_ | _ | j) marker listed -
      · cases listed
      · cbv
      · cases listed
    obtain ⟨found, resolved⟩ := (outcome sole).1.mpr whole
    obtain ⟨-, parameter, listed, same⟩ := placed found resolved 1 ⟨.marker, "?", ⟨48, 49⟩⟩ rfl rfl
    exact ⟨found, resolved, parameter, listed, (Option.some.inj same).symm⟩
  · let row : RowIn "INSERT INTO t (a, b) VALUES (CASE WHEN 1 THEN 2 END, ?)" := {
      columns := names
      heading := heading
      opening := ⟨.leftParen, "(", ⟨28, 29⟩⟩
      cells := [([⟨.keyword .CASE, "CASE", ⟨29, 33⟩⟩, ⟨.keyword .WHEN, "WHEN", ⟨34, 38⟩⟩,
        ⟨.number, "1", ⟨39, 40⟩⟩, ⟨.keyword .THEN, "THEN", ⟨41, 45⟩⟩, ⟨.number, "2", ⟨46, 47⟩⟩,
        ⟨.keyword .END, "END", ⟨48, 51⟩⟩], ⟨.comma, ",", ⟨51, 52⟩⟩)]
      last := [⟨.marker, "?", ⟨53, 54⟩⟩]
      closing := ⟨.rightParen, ")", ⟨54, 55⟩⟩
      after := []
      tokenized := by cbv
      opens := rfl
      isCell := by decide
      separates := by decide
      closes := rfl
      complete := rfl }
    have sole : row.Sole := {
      heading := by decide
      apart := by
        rintro _ (_ | ⟨_, _ | ⟨_, ⟨⟩⟩⟩)
        · exact .inr (by decide)
        · exact .inl ⟨_, rfl⟩
      after := List.forall_mem_nil _
      balanced := ⟨_, row.tokenized, by decide⟩ }
    have divided : row.dividedBefore 1 = true := by cbv
    have none : (row.before 1).countP Token.isMarker = 0 := by cbv
    rw [← none]
    refine ((resolve_row_items _ row).2.2 sole).2 1 ⟨.marker, "?", ⟨53, 54⟩⟩ rfl rfl divided ?_
    rintro (_ | i) earlier other listed
    · cases listed
    · omega

/-- A word that opens a clause, in an item, takes the columns of all items behind it away. -/
theorem clause_word_hides_columns_of_later_items :
    resolve "INSERT INTO t (a, b) VALUES (1, ?)" = .ok [⟨0, "B", ⟨32, 33⟩⟩] ∧
      resolve "INSERT INTO t (a, b) VALUES (CASE WHEN 1 THEN 2 END, ?)" =
        .error (.unresolvedMarker 0 ⟨53, 54⟩) := by
  constructor <;> cbv

end BindStream
