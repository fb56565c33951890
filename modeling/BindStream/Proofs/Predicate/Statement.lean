import BindStream.Proofs.Predicate.Resolution
import BindStream.Proofs.Resolver.Spelling

namespace BindStream

/-! Whole statements that end in a predicate. -/

namespace Resolver

variable {group : Group} {first : List Lexeme} {columns : List String} {lexeme : Lexeme}

namespace Binds

theorem name (name : Name) (noCall : lexeme.kind ≠ .leftParen)
    (binds : Binds (lexeme :: first) columns (group.push name.column)) :
    Binds (name.lexeme :: lexeme :: first) columns group := by
  intro outer parameters rest
  have ends : opensGroup ((lexeme :: first).map Lexeme.token ++ rest) = false :=
    beq_eq_false_iff_ne.mpr noCall
  obtain ⟨after, found, ran, bound, kind, free⟩ := binds outer parameters rest
  exact ⟨after, found, (run_name name ends).trans ran, bound, kind, free⟩

end Binds

theorem binds_assignments (assigned : List Name) (plain : group.Plain)
    (free : group.betweenPending = false) :
    Binds (commaSeparated (assigned.map Head.assignment)) (assigned.map Name.column) group := by
  induction assigned generalizing group with
  | nil => exact .nil free
  | cons name assigned ih =>
      have plainly : (group.push name.column).Plain := plain
      cases assigned with
      | nil =>
          exact .name name (by decide)
            (.cons (turns_operator .equals) rfl (.marker plainly rfl (.nil free)))
      | cons next assigned =>
          have later : Binds (commaSeparated ((next :: assigned).map Head.assignment))
              ((next :: assigned).map Name.column) (group.push name.column).nextItem :=
            ih plain rfl
          exact .name name (by decide)
            (.cons (turns_operator .equals) rfl (.marker plainly rfl
              (.cons turns_comma rfl later)))

theorem binds_statement (head : Head) (predicate : Predicate) :
    Binds (head.lexemes ++ predicate.lexemes) (head.columns ++ predicate.columns)
      (.start .root default) := by
  have plain : (Group.start .root default).Plain := .inl rfl
  have condition {before : Group} (plain : before.Plain) :
      Binds (Keyword.WHERE.lexeme :: predicate.lexemes) predicate.columns before :=
    .cons (turns_clause (by simp)) rfl (binds_predicate predicate (ready_boundary plain))
  cases head with
  | select table =>
      refine .cons (turns_clause (by simp)) rfl ?_
      refine .cons (turns_operator .star) rfl ?_
      refine .cons (turns_clause (by simp)) rfl ?_
      exact .name table (by decide) (condition plain)
  | delete table =>
      refine .cons (turns_keyword (by simp)) rfl ?_
      refine .cons (turns_clause (by simp)) rfl ?_
      exact .name table (by decide) (condition plain)
  | update table assigned =>
      have regrouped : (Head.update table assigned).lexemes ++ predicate.lexemes =
          Keyword.UPDATE.lexeme :: table.lexeme :: Keyword.SET.lexeme ::
            (commaSeparated (assigned.map Head.assignment) ++
              Keyword.WHERE.lexeme :: predicate.lexemes) := by
        simp [Head.lexemes]
      rw [regrouped]
      refine .cons (turns_keyword (by simp)) rfl ?_
      refine .name table (by decide) (.cons (turns_clause (by simp)) rfl ?_)
      have assignments : Binds (commaSeparated (assigned.map Head.assignment))
          (assigned.map Name.column) (Group.start .root default |>.push table.column).boundary :=
        binds_assignments assigned plain rfl
      exact assignments.append fun after kind free => condition (plain_of_kind plain kind)

theorem resolveTokens_statement (head : Head) (predicate : Predicate) :
    ∃ found,
      resolveTokens ((head.lexemes ++ predicate.lexemes).map Lexeme.token) = .ok found ∧
      found.map Parameter.column = head.columns ++ predicate.columns := by
  obtain ⟨after, found, ran, columns, -, -⟩ := binds_statement head predicate [] [] []
  refine ⟨found, ?_, columns⟩
  rw [List.append_nil] at ran
  have initially : settled (.start .root default) [] [] = initial := rfl
  rw [resolveTokens, ← initially, ran]
  rfl

end Resolver

/-- A statement that ends in a predicate binds the columns it assigns, then, for each marker of
the predicate, the column that the marker is compared with. -/
theorem resolve_statementText (gaps : Nat → Nat) (head : Head) (predicate : Predicate) :
    ∃ found, resolve (statementText gaps head predicate) = .ok found ∧
      found.map Parameter.column = head.columns ++ predicate.columns := by
  obtain ⟨found, resolved, columns⟩ := Resolver.resolveTokens_statement head predicate
  have spells : Spells (statementText gaps head predicate) (head.lexemes ++ predicate.lexemes) :=
    spells_spaced gaps _
  obtain ⟨placed, resolvedText, same⟩ := spells.columns resolved
  exact ⟨placed, resolvedText, same.trans columns⟩

example :
    let between : Predicate :=
      .not (.atom (.between (.nest (.call (.quoted ['f']) (.name (.quoted ['c']))))))
    statementText (fun _ => 0) (.delete (.quoted ['t'])) between =
        "DELETE FROM `t` WHERE NOT `f` ( `c` ) BETWEEN ? AND ?" ∧
      between.columns = ["C", "C"] := by
  exact ⟨rfl, rfl⟩

end BindStream
