import Mathlib
import BindStream.Proofs.Resolver.Alongside
import BindStream.Proofs.Resolver.Correspondence

namespace BindStream

/-! A subselect in parentheses sees nothing of the statement around it but the row that it is
compared with. -/

structure Subselect (query : List Token) : Prop where
  begins : query.head?.map Token.kind = some (.keyword .SELECT)
  balanced : Balanced query
  noInsert : ∀ token ∈ query, token.kind ≠ .keyword .INSERT

namespace Resolver

variable {reached : Resolver} {span : Span} {query rest : List Token}

theorem openGroup_eq_enter (reached : Resolver) (span : Span) :
    ∃ parent kind, reached.openGroup span = reached.enter parent kind span := by
  unfold openGroup
  split
  · exact ⟨_, _, rfl⟩
  · split <;> exact ⟨_, _, rfl⟩

def row? (opened : Resolver) : Option Columns := opened.current.kind.row?

/-- The `SELECT` puts a boundary into the group, as it does at the top of a statement. -/
theorem alongside_openClause (reached : Resolver) (span : Span) :
    ∃ context, Alongside context (reached.openGroup span).row? 0
      ((reached.openGroup span).openClause .SELECT) (initial.openClause .SELECT) := by
  obtain ⟨parent, kind, opened⟩ := openGroup_eq_enter reached span
  have base : SameAbove (parent :: reached.outer) kind.row? 0
      ((Group.start kind span).boundary :: parent :: reached.outer)
      [(Group.start kind span).boundary.recast .root default] := .base rfl rfl rfl
  rw [opened]
  exact ⟨parent :: reached.outer, List.cons_ne_nil _ _, base, rfl, rfl⟩

end Resolver

namespace Subselect

open Resolver

variable {reached : Resolver} {span : Span} {query rest : List Token}

theorem exists_head (subselect : Subselect query) :
    ∃ head tail, query = head :: tail ∧ head.kind = .keyword .SELECT := by
  cases query with
  | nil => cases subselect.begins
  | cons head tail => exact ⟨head, tail, rfl, Option.some.inj subselect.begins⟩

theorem accept_head {head : Token} (resolver : Resolver) (callFollows : Bool)
    (select : head.kind = .keyword .SELECT) :
    resolver.accept head callFollows = .ok (resolver.openClause .SELECT) := by
  rw [Resolver.accept, select]
  rfl

theorem isMarker_head {head : Token} (select : head.kind = .keyword .SELECT) :
    head.isMarker = false := by
  rw [Token.isMarker, select]
  rfl

theorem balanced_tail {head : Token} {tail : List Token}
    (select : head.kind = .keyword .SELECT) (subselect : Subselect (head :: tail)) :
    depthAfter 0 tail = some 0 := by
  obtain ⟨next, stepped, balanced⟩ := Option.bind_eq_some_iff.mp subselect.balanced
  rw [Token.depthFrom, select] at stepped
  cases stepped
  exact balanced

theorem runBefore (subselect : Subselect query) (ends : opensGroup rest = false)
    (clear : initial.Clear (reached.openGroup span).row? query) :
    columnsBefore rest (reached.openGroup span) query = columnsBefore [] initial query ∧
      ((∃ inside found,
          Resolver.runBefore rest (reached.openGroup span) query = .ok inside ∧
          resolveTokens query = .ok found) ∨
        ∃ ordinal ordinalAlone place,
          Resolver.runBefore rest (reached.openGroup span) query =
            .error (.unresolvedMarker ordinal place) ∧
          resolveTokens query = .error (.unresolvedMarker ordinalAlone place)) := by
  obtain ⟨head, tail, rfl, select⟩ := subselect.exists_head
  obtain ⟨context, along⟩ := alongside_openClause reached span
  have clear' := clear.2 _ (accept_head initial (opensGroup tail) select)
  have unmarked := isMarker_head select
  obtain ⟨columns, ended⟩ := along.runBefore ends
    (fun token member => subselect.noInsert token (List.mem_cons_of_mem _ member))
    (balanced_tail select subselect) clear'
  refine ⟨?_, ?_⟩
  · rw [columnsBefore_cons_of_ok (accept_head _ _ select),
      columnsBefore_cons_of_ok (accept_head _ _ select),
      columnAt_of_not_isMarker unmarked, columnAt_of_not_isMarker unmarked]
    exact columns
  · rw [runBefore_cons_of_ok (accept_head _ _ select), resolveTokens, run_eq_runBefore,
      runBefore_cons_of_ok (accept_head _ _ select)]
    rcases ended with
      ⟨inside, alone, ran, ranAlone, along'⟩ | ⟨ordinal, ordinalAlone, place, ran, ranAlone⟩
    · refine .inl ⟨inside, alone.parameters, ran, ?_⟩
      rw [ranAlone]
      exact if_pos along'.atRoot_alone
    · refine .inr ⟨ordinal, ordinalAlone, place, ran, ?_⟩
      rw [ranAlone]
      rfl

theorem columnsBefore_eq_iff (subselect : Subselect query) (ends : opensGroup rest = false) :
    columnsBefore rest (reached.openGroup span) query = columnsBefore [] initial query ↔
      initial.Clear (reached.openGroup span).row? query := by
  constructor
  · intro same
    obtain ⟨head, tail, rfl, select⟩ := subselect.exists_head
    obtain ⟨context, along⟩ := alongside_openClause reached span
    have unmarked := isMarker_head select
    rw [columnsBefore_cons_of_ok (accept_head _ _ select),
      columnsBefore_cons_of_ok (accept_head _ _ select),
      columnAt_of_not_isMarker unmarked, columnAt_of_not_isMarker unmarked] at same
    refine ⟨fun marked => absurd marked (Bool.eq_false_iff.mp unmarked), fun next went => ?_⟩
    cases (accept_head initial (opensGroup tail) select).symm.trans went
    exact along.clear_of_columnsBefore ends
      (fun token member => subselect.noInsert token (List.mem_cons_of_mem _ member))
      (balanced_tail select subselect) same
  · exact fun clear => (subselect.runBefore ends clear).1

end Subselect

/-! What the outcome of a text shows of a part of it. -/

/-- From marker number `first` on, the outcome of a whole is that of a part, as far as a failure
does not hide it. -/
def Shows (first : Nat) :
    Except ResolveError (List Parameter) → Except ResolveError (List Parameter) → Prop
  | .ok found, .ok all =>
    ((all.drop first).take found.length).map Parameter.column = found.map Parameter.column
  | .ok found, .error (.unresolvedMarker ordinal _) => first + found.length ≤ ordinal
  | .ok _, .error _ => True
  | .error (.unresolvedMarker ordinal _), whole =>
    ∃ span, whole = .error (.unresolvedMarker (first + ordinal) span)
  | .error _, _ => False

theorem shows_unplaced {first : Nat} {part whole : Except ResolveError (List Parameter)} :
    Shows first (unplaced part) whole ↔ Shows first part whole := by
  cases part with
  | error failure => cases failure <;> exact Iff.rfl
  | ok found =>
      have sameColumns : (found.map (Parameter.mapSpan fun _ => default)).map Parameter.column =
          found.map Parameter.column := by
        rw [List.map_map]
        rfl
      cases whole with
      | error failure =>
          cases failure <;> simp only [unplaced, mapOutcome, Shows, List.length_map]
      | ok all => simp only [unplaced, mapOutcome, Shows, List.length_map, sameColumns]

namespace Resolver

variable {reached inside : Resolver} {found : List Parameter}
variable {opening closing : Token} {before query after rest : List Token}

theorem opensGroup_of_rightParen (closes : closing.kind = .rightParen) :
    opensGroup (closing :: after) = false := opensGroup_of_kind closes rfl

theorem shows_of_run
    (columns : inside.parameters.map someColumn =
      reached.parameters.map someColumn ++ found.map someColumn) :
    Shows reached.parameters.length (.ok found) (inside.run rest >>= finish) := by
  have counted : inside.parameters.length = reached.parameters.length + found.length := by
    have lengths := congrArg List.length columns
    rwa [List.length_append, List.length_map, List.length_map, List.length_map] at lengths
  cases ran : inside.run rest with
  | error failure =>
      cases failure with
      | unresolvedMarker ordinal span =>
          rw [run_eq_runBefore] at ran
          obtain ⟨later, -, position⟩ := columnsBefore_of_unresolved ran
          change reached.parameters.length + found.length ≤ ordinal
          omega
      | _ => trivial
  | ok last =>
      rw [run_eq_runBefore] at ran
      have all := map_someColumn_of_runBefore ran
      rw [columns] at all
      change Shows _ _ last.finish
      unfold finish
      split
      · have sameColumns : ((last.parameters.drop reached.parameters.length).take
            found.length).map someColumn = found.map someColumn := by
          rw [List.map_take, List.map_drop, all, List.append_assoc,
            List.drop_left' (List.length_map _), List.take_left' (List.length_map _)]
        apply (List.map_inj_right fun _ _ => Option.some.inj).mp
        rw [List.map_map, List.map_map]
        exact sameColumns
      · trivial

theorem shows_subselect (opens : opening.kind = .leftParen)
    (closes : closing.kind = .rightParen)
    (ran : runBefore [opening] initial before = .ok reached) (subselect : Subselect query)
    (clear : initial.Clear (reached.openGroup opening.span).row? query) :
    Shows reached.parameters.length (resolveTokens query)
      (resolveTokens (before ++ opening :: (query ++ closing :: after))) := by
  have ends : opensGroup (closing :: after) = false := opensGroup_of_rightParen closes
  have entered : reached.accept opening (opensGroup (query ++ closing :: after)) =
      .ok (reached.openGroup opening.span) := by
    simp only [accept, opens]
  have whole : resolveTokens (before ++ opening :: (query ++ closing :: after)) =
      runBefore (closing :: after) (reached.openGroup opening.span) query >>= fun inside =>
        inside.run (closing :: after) >>= finish := by
    have reaches : runBefore (opening :: (query ++ closing :: after)) initial before =
        .ok reached := by
      rw [← ran]
      exact runBefore_congr rfl
    calc
      resolveTokens (before ++ opening :: (query ++ closing :: after))
        = reached.run (opening :: (query ++ closing :: after)) >>= finish := by
          rw [resolveTokens, run_append, reaches]
          rfl
      _ = (reached.openGroup opening.span).run (query ++ closing :: after) >>= finish := by
          rw [run_cons_of_ok entered]
      _ = _ := by rw [run_append, bind_assoc]
  obtain ⟨columns, ended⟩ := subselect.runBefore ends clear
  rcases ended with
    ⟨inside, found, ran, resolved⟩ | ⟨ordinal, ordinalAlone, place, ran, failed⟩
  · rw [whole, ran, resolved]
    apply shows_of_run
    rw [map_someColumn_of_runBefore ran, columns, map_someColumn_of_resolveTokens resolved,
      parameters_openGroup]
  · have ranAlone := resolveTokens_eq_unresolved failed
    rw [run_eq_runBefore] at ranAlone
    obtain ⟨shown, tail, rfl⟩ := columnsBefore_of_unresolved ran
    obtain ⟨shownAlone, tailAlone, rfl⟩ := columnsBefore_of_unresolved ranAlone
    have counted : shown.length = shownAlone.length := by
      have lengths := congrArg List.length (tail.symm.trans (columns.trans tailAlone))
      simpa using lengths
    have none_found : initial.parameters.length + shownAlone.length = shownAlone.length :=
      Nat.zero_add _
    rw [whole, ran, failed, parameters_openGroup, counted, none_found]
    exact ⟨place, rfl⟩

/-! A row is what comes through: within any row, some subselect is bound otherwise. -/

def Isolates (opened : Resolver) : Prop :=
  ∀ query rest, Subselect query → opensGroup rest = false →
    columnsBefore rest opened query = columnsBefore [] initial query

/-- The tokens of `SELECT name = (?)`. -/
def probe (name : String) : List Token := [
  ⟨.keyword .SELECT, "SELECT", default⟩, ⟨.identifier, name, default⟩,
  ⟨.operator, "=", default⟩, ⟨.leftParen, "(", default⟩, ⟨.marker, "?", default⟩,
  ⟨.rightParen, ")", default⟩]

theorem subselect_probe (name : String) : Subselect (probe name) where
  begins := rfl
  balanced := rfl
  noInsert token member := by
    simp only [probe, List.mem_cons, List.not_mem_nil, or_false] at member
    rcases member with rfl | rfl | rfl | rfl | rfl | rfl <;> simp

theorem columnsBefore_probe (name : String) :
    columnsBefore [] initial (probe name) =
      [some (String.ofList (Text.upper name.toList))] := rfl

theorem columnsBefore_probe_in_row (parent : Group) (columns : Columns) (name : String) :
    columnsBefore [] (reached.enter parent (.rowTuple columns) span) (probe name) =
      [columns[0]?.join] := by
  let marker : Token := ⟨.marker, "?", default⟩
  let closing : Token := ⟨.rightParen, ")", default⟩
  obtain ⟨bracket, reaches, here⟩ : ∃ bracket : Resolver,
      columnsBefore [] (reached.enter parent (.rowTuple columns) span) (probe name) =
        columnsBefore [] bracket [marker, closing] ∧
      bracket.column? = columns[0]?.join := ⟨_, rfl, rfl⟩
  rw [reaches]
  cases accepted : bracket.accept marker (opensGroup ([closing] ++ [])) with
  | error failure =>
      rw [columnsBefore_cons_of_error accepted, columnAt_of_isMarker rfl, here]
  | ok next =>
      have last : columnsBefore [] next [closing] = [] := by
        rw [columnsBefore, columnAt_of_not_isMarker rfl]
        split <;> rfl
      rw [columnsBefore_cons_of_ok accepted, columnAt_of_isMarker rfl, here, last]
      rfl

theorem isolates_iff (reached : Resolver) (span : Span) :
    Isolates (reached.openGroup span) ↔ (reached.openGroup span).row? = none := by
  constructor
  · intro isolates
    obtain ⟨parent, kind, opened⟩ := openGroup_eq_enter reached span
    rw [opened] at isolates ⊢
    cases kind with
    | rowTuple columns =>
        have bound (name : String) :
            columns[0]?.join = some (String.ofList (Text.upper name.toList)) := by
          have same := isolates (probe name) [] (subselect_probe name) rfl
          rw [columnsBefore_probe_in_row, columnsBefore_probe] at same
          exact (List.cons.inj same).1
        have same := (bound "a").symm.trans (bound "b")
        cases same
    | _ => rfl
  · intro noRow query rest subselect ends
    rw [subselect.columnsBefore_eq_iff ends, noRow]
    exact clear_none initial query

end Resolver

section

open Resolver

/-- A subselect is bound in a statement as it is on its own exactly if the row that it is compared
with leaves each marker its column. Without a row, that holds of every subselect. -/
theorem subselect_resolves_alone {text alone : String} {before query after lone : List Token}
    {opening closing : Token} {reached : Resolver}
    (tokenized : tokenize text = .ok (before ++ opening :: (query ++ closing :: after)))
    (opens : opening.kind = .leftParen) (closes : closing.kind = .rightParen)
    (ran : runBefore [opening] initial before = .ok reached) (subselect : Subselect query)
    (tokenizedAlone : tokenize alone = .ok lone)
    (sameWords : lone.map Token.word = query.map Token.word) :
    (columnsBefore (closing :: after) (reached.openGroup opening.span) query =
        columnsBefore [] initial lone ↔
      initial.Clear (reached.openGroup opening.span).row? query) ∧
    (initial.Clear (reached.openGroup opening.span).row? query →
      Shows reached.parameters.length (resolve alone) (resolve text)) ∧
    (Isolates (reached.openGroup opening.span) ↔
      (reached.openGroup opening.span).row? = none) := by
  refine ⟨?_, fun clear => ?_, isolates_iff reached opening.span⟩
  · rw [columnsBefore_initial_congr sameWords]
    exact subselect.columnsBefore_eq_iff (opensGroup_of_rightParen closes)
  · rw [resolve_of_tokenize tokenized, resolve_of_tokenize tokenizedAlone, ← shows_unplaced,
      unplaced_resolveTokens_congr sameWords, shows_unplaced]
    exact shows_subselect opens closes ran subselect clear

theorem subselect_resolves_alone_in_delete :
    Shows 1 (resolve "SELECT x FROM u WHERE c = (?)")
      (resolve "DELETE FROM t WHERE a = ? AND b IN (SELECT x FROM u WHERE c = (?))") := by
  have tokenized :
      tokenize "DELETE FROM t WHERE a = ? AND b IN (SELECT x FROM u WHERE c = (?))" =
        .ok ([⟨.keyword .DELETE, "DELETE", ⟨0, 6⟩⟩, ⟨.keyword .FROM, "FROM", ⟨7, 11⟩⟩,
            ⟨.identifier, "t", ⟨12, 13⟩⟩, ⟨.keyword .WHERE, "WHERE", ⟨14, 19⟩⟩,
            ⟨.identifier, "a", ⟨20, 21⟩⟩, ⟨.operator, "=", ⟨22, 23⟩⟩,
            ⟨.marker, "?", ⟨24, 25⟩⟩, ⟨.keyword .AND, "AND", ⟨26, 29⟩⟩,
            ⟨.identifier, "b", ⟨30, 31⟩⟩, ⟨.keyword .IN, "IN", ⟨32, 34⟩⟩] ++
          ⟨.leftParen, "(", ⟨35, 36⟩⟩ ::
          ([⟨.keyword .SELECT, "SELECT", ⟨36, 42⟩⟩, ⟨.identifier, "x", ⟨43, 44⟩⟩,
            ⟨.keyword .FROM, "FROM", ⟨45, 49⟩⟩, ⟨.identifier, "u", ⟨50, 51⟩⟩,
            ⟨.keyword .WHERE, "WHERE", ⟨52, 57⟩⟩, ⟨.identifier, "c", ⟨58, 59⟩⟩,
            ⟨.operator, "=", ⟨60, 61⟩⟩, ⟨.leftParen, "(", ⟨62, 63⟩⟩,
            ⟨.marker, "?", ⟨63, 64⟩⟩, ⟨.rightParen, ")", ⟨64, 65⟩⟩] ++
          ⟨.rightParen, ")", ⟨65, 66⟩⟩ :: [])) := by cbv
  have tokenizedAlone : tokenize "SELECT x FROM u WHERE c = (?)" =
      .ok [⟨.keyword .SELECT, "SELECT", ⟨0, 6⟩⟩, ⟨.identifier, "x", ⟨7, 8⟩⟩,
        ⟨.keyword .FROM, "FROM", ⟨9, 13⟩⟩, ⟨.identifier, "u", ⟨14, 15⟩⟩,
        ⟨.keyword .WHERE, "WHERE", ⟨16, 21⟩⟩, ⟨.identifier, "c", ⟨22, 23⟩⟩,
        ⟨.operator, "=", ⟨24, 25⟩⟩, ⟨.leftParen, "(", ⟨26, 27⟩⟩,
        ⟨.marker, "?", ⟨27, 28⟩⟩, ⟨.rightParen, ")", ⟨28, 29⟩⟩] := by cbv
  exact ((subselect_resolves_alone tokenized rfl rfl rfl ⟨rfl, rfl, by decide⟩ tokenizedAlone
    rfl).2.1 (clear_none _ _))

/-- The parentheses in the subselect take over the row, and the marker its first column. -/
theorem subselect_borrows_from_the_row :
    resolve "WHERE (a, b) IN (SELECT x FROM t WHERE c = (?))" = .ok [⟨0, "A", ⟨44, 45⟩⟩] ∧
      resolve "SELECT x FROM t WHERE c = (?)" = .ok [⟨0, "C", ⟨27, 28⟩⟩] := by
  constructor <;> cbv

end

end BindStream
