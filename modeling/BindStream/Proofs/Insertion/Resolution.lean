import Mathlib
import BindStream.Proofs.Predicate.Operand
import BindStream.Proofs.Resolver.Spelling

namespace BindStream

/-! Insertions: the items of a row bind their markers to the columns at the same places, and an
assignment to the column that is assigned. -/

namespace Resolver

variable {columns : Option Columns} {clause : Option Keyword} {insert : InsertHead}
variable {group : Group} {outer : List Group} {parameters : List Parameter} {rest : List Token}

/-! The column list. -/

theorem reads_columnList (names : List Name) (nonempty : names ≠ []) :
    Reads (some insert) (group :: outer) (· = .start .columnList default)
      (commaSeparated (names.map fun name => [name.lexeme])) []
      fun left => left.kind = .columnList ∧
        left.columns = names.map fun name => some name.column := by
  have listed : Reads (some insert) (group :: outer) (· = .start .columnList default)
      (commaSeparated ((names.map Nest.name).map Nest.lexemes)) [] _ :=
    reads_listed (names.map Nest.name) (List.map_eq_nil_iff.not.mpr nonempty)
  rw [List.map_map] at listed
  refine listed.weaken ?_
  rintro left ⟨kind, -, columns⟩
  exact ⟨kind, columns.trans (List.map_map ..)⟩

/-- What a statement begins with up to its column list. -/
theorem run_into (table : Name) :
    initial.run ([Keyword.INSERT.lexeme, Keyword.INTO.lexeme, table.lexeme, .opening].map
        Lexeme.token ++ rest) =
      (reading (some ⟨none, none⟩) (.start .columnList default) [.start .root default] []).run
        rest := by
  have called (resolver : Resolver) :
      resolver.accept table.lexeme.token true = .ok { resolver with callPending := true } := by
    cases table <;> rfl
  refine (run_cons_of_ok rfl).trans ((run_cons_of_ok rfl).trans ?_)
  exact (run_cons_of_ok (called _)).trans (run_cons_of_ok rfl)

theorem run_listed {left parent : Group} (list : left.kind = .columnList) :
    (reading (some ⟨columns, clause⟩) left [parent] parameters).run (Lexeme.closing.token :: rest) =
      (reading (some ⟨some left.columns, clause⟩) (parent.absorb left) [] parameters).run rest := by
  apply run_cons_of_ok
  change (reading (some ⟨columns, clause⟩) left [parent] parameters).closeGroup default = _
  rw [closeGroup]
  dsimp only [reading]
  rw [if_pos list]
  rfl

theorem run_clause {keyword : Keyword} (opens : keyword ∈ [Keyword.VALUES, .ON, .SET]) :
    (reading (some ⟨columns, clause⟩) group [] parameters).run (keyword.lexeme.token :: rest) =
      (reading (some ⟨columns, some keyword⟩) group.boundary [] parameters).run rest := by
  apply run_cons_of_ok
  simp only [List.mem_cons, List.not_mem_nil, or_false] at opens
  rcases opens with rfl | rfl | rfl <;> rfl

/-! Rows. -/

theorem reads_valuesRow {names : List Name} (row : List Expression)
    (shaped : row.length = names.length) (nonempty : names ≠ []) :
    Reads (some ⟨some (names.map fun name => some name.column), some .VALUES⟩) [] (·.kind = .root)
      (Insertion.rowLexemes row) (Insertion.bound (names.zip row)) (·.kind = .root) := by
  intro group parameters rest root ends
  have items : Reads (some ⟨some (names.map fun name => some name.column), some .VALUES⟩) [group]
      (· = .start .valuesTuple default) (commaSeparated (row.map Expression.lexemes))
      (Insertion.bound (names.zip row)) (InRow .valuesTuple) := by
    refine reads_row_items Name.column shaped nonempty ?_
    intro inner inRow
    rw [Group.positional, inRow.bounded, inRow.kind]
    rfl
  obtain ⟨left, found, ran, bound, leaves⟩ :=
    items _ parameters (Lexeme.closing.token :: rest) rfl rfl
  have noList : left.kind ≠ .columnList := by
    rw [leaves.kind]
    decide
  refine ⟨group.absorb left, found, ?_, bound, ?_⟩
  · rw [Insertion.rowLexemes, List.map_cons, List.cons_append, List.map_append,
      List.append_assoc]
    exact (run_cons_of_ok rfl).trans (ran.trans (run_closing rfl (.inr noList)))
  · rw [Group.absorb_eq]
    exact root

/-! Assignments. -/

theorem reads_assignment (pair : Name × Expression) :
    Reads (some ⟨columns, some .SET⟩) [] (·.kind = .root) (Upsert.assignment pair)
      (List.replicate pair.2.markers pair.1.column) (·.kind = .root) := by
  intro group parameters rest root ends
  have byName : (group.push pair.1.column).positional (columns.getD []) = none := by
    have kind : (group.push pair.1.column).kind = .root := root
    rw [Group.positional, kind]
    exact ite_self none
  have seen : columnIn (listed (some ⟨columns, some .SET⟩)) [group.push pair.1.column] =
      some pair.1.column := by
    rw [columnIn, listed, Option.bind_some, byName]
    rfl
  have noRow : (reading (some ⟨columns, some .SET⟩) (group.push pair.1.column) [] []).insertKind? =
      none := by
    cases columns <;> rfl
  obtain ⟨left, found, ran, bound, leaves⟩ :=
    reads_expression pair.2 (fun _ => seen) noRow _ parameters rest rfl ends
  refine ⟨left, found, (run_name pair.1 rfl).trans ((run_operator .equals).trans ran), bound, ?_⟩
  rw [leaves]
  exact (pair.2.kind_leaves _).trans root

theorem run_conflict {columns : Columns} (upsert : Upsert) (root : group.kind = .root) :
    ∃ (left : Group) (found : List Parameter),
      (reading (some ⟨some columns, clause⟩) group [] parameters).run
          (upsert.lexemes.map Lexeme.token) =
        .ok (reading (some ⟨some columns, some .SET⟩) left [] (parameters ++ found)) ∧
      found.map Parameter.column = Insertion.bound upsert.assignments := by
  let target : Group := Group.push (.start .call default) upsert.target.column
  let before : Group := group.boundary.absorb target
  have rootToo : (before.push Upsert.doWord.column).boundary.kind = .root := by
    change (group.boundary.absorb target).kind = .root
    rw [Group.absorb_eq]
    exact root
  have noList : GroupKind.call ≠ .columnList := by decide
  have assignments : Reads (some ⟨some columns, some .SET⟩) [] (·.kind = .root)
      (commaSeparated (upsert.assignments.map Upsert.assignment))
      (Insertion.bound upsert.assignments) (·.kind = .root) :=
    .commaSeparated (fun _ => (·.kind = .root)) (fun _ => (·.kind = .root))
      (fun _ pair _ _ => reads_assignment pair) (fun _ _ root => root) upsert.assigns
  obtain ⟨left, found, ran, bound, -⟩ := assignments _ parameters [] rootToo rfl
  refine ⟨left, found, ?_, bound⟩
  rw [List.append_nil] at ran
  calc (reading (some ⟨some columns, clause⟩) group [] parameters).run
        (upsert.lexemes.map Lexeme.token)
    _ = (reading (some ⟨some columns, some .ON⟩) group.boundary [] parameters).run _ :=
        run_clause (by simp)
    _ = (reading (some ⟨some columns, some .ON⟩) (.start .call default) [group.boundary]
          parameters).run _ := run_function Upsert.conflictWord rfl
    _ = (reading (some ⟨some columns, some .ON⟩) target [group.boundary] parameters).run _ :=
        run_name upsert.target rfl
    _ = (reading (some ⟨some columns, some .ON⟩) before [] parameters).run _ :=
        run_closing rfl (.inr noList)
    _ = (reading (some ⟨some columns, some .ON⟩) (before.push Upsert.doWord.column) []
          parameters).run _ := run_name Upsert.doWord rfl
    _ = (reading (some ⟨some columns, some .ON⟩) (before.push Upsert.doWord.column) []
          parameters).run _ := run_cons_of_ok rfl
    _ = (reading (some ⟨some columns, some .SET⟩) (before.push Upsert.doWord.column).boundary []
          parameters).run _ := run_clause (by simp)
    _ = _ := ran

/-! Whole insertions. -/

theorem reads_valuesRows (insertion : Insertion) :
    Reads (some ⟨some (insertion.columns.map fun name => some name.column), some .VALUES⟩) []
      (·.kind = .root) (commaSeparated (insertion.rows.map Insertion.rowLexemes))
      (insertion.rows.flatMap fun row => Insertion.bound (insertion.columns.zip row))
      (·.kind = .root) := by
  refine .commaSeparated (fun _ => (·.kind = .root)) (fun _ => (·.kind = .root))
    (fun _ row _ all => ?_) (fun _ _ root => root) insertion.filled
  have member : row ∈ insertion.rows := all ▸ List.mem_append_cons_self
  exact reads_valuesRow row (insertion.shaped row member) insertion.named

theorem run_upsert (columns : Columns) (parameters : List Parameter) (upsert : Option Upsert)
    (root : group.kind = .root) :
    ∃ (insert : InsertHead) (left : Group) (found : List Parameter),
      (reading (some ⟨some columns, some .VALUES⟩) group [] parameters).run
          ((upsert.elim [] Upsert.lexemes).map Lexeme.token) =
        .ok (reading (some insert) left [] (parameters ++ found)) ∧
      found.map Parameter.column =
        upsert.elim [] fun upsert => Insertion.bound upsert.assignments := by
  cases upsert with
  | none =>
      refine ⟨⟨some columns, some .VALUES⟩, group, [], ?_, rfl⟩
      rw [List.append_nil]
      rfl
  | some upsert =>
      obtain ⟨left, found, ran, bound⟩ := run_conflict upsert root
      exact ⟨_, left, found, ran, bound⟩

theorem run_insertion (insertion : Insertion) :
    ∃ (insert : InsertHead) (left : Group) (found : List Parameter),
      initial.run (insertion.lexemes.map Lexeme.token) = .ok (reading (some insert) left [] found) ∧
      found.map Parameter.column = insertion.boundColumns := by
  let columns : Columns := insertion.columns.map fun name => some name.column
  let afterRows : List Lexeme := insertion.upsert.elim [] Upsert.lexemes
  let fromRows : List Lexeme :=
    commaSeparated (insertion.rows.map Insertion.rowLexemes) ++ afterRows
  have ends : opensGroup (afterRows.map Lexeme.token) = false := by
    unfold afterRows
    cases insertion.upsert <;> rfl
  obtain ⟨list, inList, ranList, unbound, kind, shown⟩ :=
    reads_columnList insertion.columns insertion.named (.start .columnList default) []
      ((Lexeme.closing :: Keyword.VALUES.lexeme :: fromRows).map Lexeme.token) rfl rfl
  have empty : inList = [] := List.map_eq_nil_iff.mp unbound
  have root : (Group.absorb (.start .root default) list).boundary.kind = .root := by
    change (Group.absorb (.start .root default) list).kind = .root
    rw [Group.absorb_eq]
    rfl
  obtain ⟨middle, inRows, ranRows, boundInRows, rootToo⟩ :=
    reads_valuesRows insertion _ [] (afterRows.map Lexeme.token) root ends
  obtain ⟨insert, left, inUpsert, ranUpsert, boundInUpsert⟩ :=
    run_upsert columns inRows insertion.upsert rootToo
  refine ⟨insert, left, inRows ++ inUpsert, ?_, ?_⟩
  · have regrouped : insertion.lexemes =
        [Keyword.INSERT.lexeme, Keyword.INTO.lexeme, insertion.table.lexeme, .opening] ++
          (commaSeparated (insertion.columns.map fun column => [column.lexeme]) ++
            .closing :: Keyword.VALUES.lexeme :: fromRows) := by
      simp [Insertion.lexemes, fromRows, afterRows]
    calc initial.run (insertion.lexemes.map Lexeme.token)
      _ = (reading (some ⟨none, none⟩) (.start .columnList default) [.start .root default] []).run
            ((commaSeparated (insertion.columns.map fun column => [column.lexeme])).map
                Lexeme.token ++
              (Lexeme.closing :: Keyword.VALUES.lexeme :: fromRows).map Lexeme.token) := by
          rw [regrouped, List.map_append, run_into, List.map_append]
      _ = (reading (some ⟨none, none⟩) list [.start .root default] []).run
            ((Lexeme.closing :: Keyword.VALUES.lexeme :: fromRows).map Lexeme.token) := by
          rw [ranList, empty]
          rfl
      _ = (reading (some ⟨some columns, none⟩) (Group.absorb (.start .root default) list) [] []).run
            ((Keyword.VALUES.lexeme :: fromRows).map Lexeme.token) := by
          unfold columns
          rw [← shown]
          exact run_listed kind
      _ = (reading (some ⟨some columns, some .VALUES⟩)
            (Group.absorb (.start .root default) list).boundary [] []).run
            (fromRows.map Lexeme.token) := run_clause (by simp)
      _ = (reading (some ⟨some columns, some .VALUES⟩) middle [] inRows).run
            (afterRows.map Lexeme.token) := by
          rw [List.map_append]
          exact ranRows
      _ = .ok (reading (some insert) left [] (inRows ++ inUpsert)) := ranUpsert
  · rw [List.map_append, boundInRows, boundInUpsert]
    rfl

end Resolver

/-- Every text that spells an insertion is accepted, and its markers bind to the columns that
they are written to. -/
theorem resolve_insertion (insertion : Insertion) {text : String}
    (spells : Spells text insertion.lexemes) :
    ∃ found, resolve text = .ok found ∧
      found.map Parameter.column = insertion.boundColumns := by
  obtain ⟨insert, left, found, ran, bound⟩ := Resolver.run_insertion insertion
  have resolved : resolveTokens (insertion.lexemes.map Lexeme.token) = .ok found := by
    rw [resolveTokens, ran]
    rfl
  obtain ⟨placed, resolvedText, same⟩ := spells.columns resolved
  exact ⟨placed, resolvedText, same.trans bound⟩

theorem resolve_insertion_of_upsert :
    ∃ found,
      resolve "insert INTO t(id,`Na me`) VALUES (?, f(?, 'it''s ?', `g`(?))), (null, ?)
        on conflict (id) do update set `Na me` = lower( ?)" = .ok found ∧
      found.map Parameter.column = ["ID", "NA ME", "NA ME", "NA ME", "NA ME"] := by
  let id : Name := .word 'i' ['d'] rfl
  let name : Name := .quoted "Na me".toList
  let null : Expression := .literal (.constant .NULL List.mem_cons_self)
  let nested : Expression := .call (.word 'f' [] rfl)
    [.marker, .literal (.quoted '\'' rfl []), .call (.quoted ['g']) [.marker]]
  let lower : Expression := .call (.word 'l' ['o', 'w', 'e', 'r'] rfl) [.marker]
  let insertion : Insertion := {
    table := .word 't' [] rfl
    columns := [id, name]
    named := List.cons_ne_nil _ _
    rows := [[.marker, nested], [null, .marker]]
    filled := List.cons_ne_nil _ _
    shaped := by simp
    upsert := some ⟨id, [(name, lower)], List.cons_ne_nil _ _⟩ }
  have spells : Spells "insert INTO t(id,`Na me`) VALUES (?, f(?, 'it''s ?', `g`(?))), (null, ?)
        on conflict (id) do update set `Na me` = lower( ?)" insertion.lexemes := by
    cbv
  exact resolve_insertion insertion spells

end BindStream
