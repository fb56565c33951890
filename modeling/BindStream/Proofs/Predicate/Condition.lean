import BindStream.Proofs.Predicate.Resolution
import BindStream.Proofs.Resolver.Spelling
import BindStream.Proofs.Resolver.Subselect

namespace BindStream

/-! Conditions behind a `WHERE`: what precedes the `WHERE` has no part in them, nor have they in
what follows behind `AND` or `OR`. -/

/-- A text with a condition behind a `WHERE` outside all parentheses and insertions. What precedes
the `WHERE` resolves. -/
structure ConditionIn (text : String) (lexemes : List Lexeme) where
  before : List Token
  whereWord : Token
  condition : List Token
  after : List Token
  earlier : List Parameter
  tokenized : tokenize text = .ok (before ++ whereWord :: (condition ++ after))
  isWhere : whereWord.kind = .keyword .WHERE
  noInsert : ∀ token ∈ before, token.kind ≠ .keyword .INSERT
  resolved : resolveTokens before = .ok earlier
  spell : Spell condition lexemes
  ends : Resolver.opensGroup after = false

/-- Outside all parentheses, a group in which no `BETWEEN` waits for its `AND`. -/
structure Group.AtRest (group : Group) : Prop where
  root : group.kind = .root
  free : group.betweenPending = false

theorem resolvedBehind_resolvedBehind (first second : List Parameter)
    (outcome : Except ResolveError (List Parameter)) :
    resolvedBehind first 0 (resolvedBehind second 0 outcome) =
      resolvedBehind (first ++ second.map (Parameter.shift first.length 0)) 0 outcome := by
  have counted : (first ++ second.map (Parameter.shift first.length 0)).length =
      second.length + first.length := by
    rw [List.length_append, List.length_map, Nat.add_comm]
  have shifted (n : Nat) : n + second.length + first.length = n + (second.length + first.length) :=
    Nat.add_assoc _ _ _
  cases outcome with
  | ok found =>
      have placed : (Parameter.shift first.length 0) ∘ (Parameter.shift second.length 0) =
          Parameter.shift (second.length + first.length) 0 := by
        funext parameter
        simp only [Function.comp_apply, Parameter.shift, shifted]
        rfl
      rw [resolvedBehind, resolvedBehind, resolvedBehind, counted, List.map_append,
        List.append_assoc, List.map_map, placed]
  | error failure =>
      rw [resolvedBehind, resolvedBehind, resolvedBehind, counted]
      cases failure <;> simp only [ResolveError.shift, shifted] <;> rfl

namespace Resolver

variable {resolver : Resolver} {tokens before after rest condition : List Token}
variable {lexemes : List Lexeme} {columns : List String} {whereWord conjunction : Token}

/-- The group of a statement that has come to its first `WHERE`. -/
def conditional : Group := Group.boundary (.start .root default)

theorem ready_conditional : conditional.Ready := ready_boundary (.inl rfl)

theorem resolveTokens_where (isWhere : whereWord.kind = .keyword .WHERE) :
    resolveTokens (whereWord :: tokens) = (settled conditional [] []).run tokens >>= finish := by
  have opened : initial.accept whereWord (opensGroup tokens) = .ok (settled conditional [] []) := by
    rw [accept, isWhere]
    rfl
  rw [resolveTokens, run_cons_of_ok opened]

/-- A `WHERE` outside all parentheses and insertions lets through nothing of what precedes it. -/
theorem resolveTokens_append_where {earlier : List Parameter}
    (resolved : resolveTokens before = .ok earlier)
    (noInsert : ∀ token ∈ before, token.kind ≠ .keyword .INSERT)
    (isWhere : whereWord.kind = .keyword .WHERE) :
    resolveTokens (before ++ whereWord :: tokens) =
      resolvedBehind earlier 0 (resolveTokens (whereWord :: tokens)) := by
  obtain ⟨last, ran, whole, rfl⟩ := resolveTokens_eq_ok resolved
  have calls : last.callPending = false := callPending_of_run ran (by rintro ⟨⟩)
  have outside : last.insert = none := insert_of_run ran rfl noInsert
  have root := kind_current_of_run ran whole
  have reaches : runBefore (whereWord :: tokens) initial before = .ok last := by
    have ends : opensGroup (whereWord :: tokens) = opensGroup [] := opensGroup_of_kind isWhere rfl
    rw [runBefore_congr ends, ← run_eq_runBefore, ran]
  obtain ⟨current, outer, insert, callPending, parameters⟩ := last
  cases List.isEmpty_iff.mp whole
  cases outside
  cases calls
  let opened : Resolver := settled current.boundary [] parameters
  have accepted : Resolver.accept ⟨current, [], none, false, parameters⟩ whereWord
      (opensGroup tokens) = .ok opened := by
    rw [accept, isWhere]
    rfl
  have continues : Continues parameters opened (settled conditional [] []) := by
    refine ⟨.root ⟨root, rfl, rfl, rfl, rfl⟩, rfl, rfl, ?_⟩
    exact (List.append_nil parameters).symm
  have joined : initial.run (before ++ whereWord :: tokens) = opened.run tokens := by
    rw [run_append, reaches]
    exact run_cons_of_ok accepted
  rw [resolveTokens, joined, resolveTokens_where isWhere]
  exact continues.outcome tokens

theorem Binds.reads (binds : Binds lexemes columns conditional) :
    Reads none [] (· = conditional) lexemes columns Group.AtRest := by
  rintro _ parameters rest rfl -
  obtain ⟨left, found, ran, bound, kind, free⟩ := binds [] parameters rest
  exact ⟨left, found, ran, bound, kind, free⟩

theorem mapSpans_conditional :
    (settled conditional [] []).mapSpans (fun _ => default) = settled conditional [] [] := rfl

/-- The tokens of a condition run as its lexemes do. -/
theorem run_condition (reads : Reads none [] (· = conditional) lexemes columns Group.AtRest)
    (spell : Spell condition lexemes) (ends : opensGroup after = false) :
    ∃ (left : Group) (found : List Parameter), found.map Parameter.column = columns ∧
      Group.AtRest left ∧
      (settled conditional [] []).run (condition ++ after) = (settled left [] found).run after := by
  obtain ⟨next, left, found, ran, placed, bound, kept⟩ :=
    reads.runBefore spell ends mapSpans_conditional rfl
  obtain ⟨current, outer, insert, callPending, parameters⟩ := next
  obtain ⟨rfl, noGroups, rfl, rfl, rfl⟩ := Resolver.mk.inj placed
  cases List.map_eq_nil_iff.mp noGroups
  refine ⟨current, parameters, ?_, ⟨kept.root, kept.free⟩, ?_⟩
  · rw [← bound, List.map_map]
    rfl
  · rw [run_append, ran]
    rfl

theorem run_condition_of_error {ordinal : Nat} (spell : Spell condition lexemes)
    (refused : (settled conditional [] []).run (lexemes.map Lexeme.token) =
      .error (.unresolvedMarker ordinal default))
    (ends : opensGroup after = false) :
    ∃ span, (settled conditional [] []).run (condition ++ after) =
      .error (.unresolvedMarker ordinal span) := by
  rw [run_eq_runBefore] at refused
  have outcome := runBefore_of_spell (settled conditional [] []) spell ends
  rw [mapSpans_conditional, refused] at outcome
  rw [run_append]
  cases reached : runBefore after (settled conditional [] []) condition with
  | ok next =>
      rw [reached] at outcome
      cases outcome
  | error failure =>
      rw [reached] at outcome
      cases failure with
      | unresolvedMarker place span =>
          cases outcome
          exact ⟨span, rfl⟩
      | _ => cases outcome

/-- Behind `AND` and `OR`, the statement stands as it did behind the `WHERE`. -/
theorem run_conjunction {left : Group} {found : List Parameter} (kept : Group.AtRest left)
    (joins : conjunction.kind = .keyword .AND ∨ conjunction.kind = .keyword .OR) :
    ((settled left [] found).run (conjunction :: rest) >>= finish) =
      resolvedBehind found 0 ((settled conditional [] []).run rest >>= finish) := by
  have accepted : (settled left [] found).accept conjunction (opensGroup rest) =
      .ok (settled left.boundary [] found) := by
    rcases joins with kind | kind
    · rw [accept, kind, ← left.conjunction_of_not_pending kept.free]
      rfl
    · rw [accept, kind]
      rfl
  have continues : Continues found (settled left.boundary [] found) (settled conditional [] []) :=
    ⟨.root ⟨kept.root, rfl, rfl, rfl, rfl⟩, rfl, rfl, (List.append_nil found).symm⟩
  rw [run_cons_of_ok accepted]
  exact continues.outcome rest

end Resolver

theorem shows_congr {first : Nat} {found others : List Parameter}
    {whole : Except ResolveError (List Parameter)}
    (same : others.map Parameter.column = found.map Parameter.column)
    (shows : Shows first (.ok found) whole) : Shows first (.ok others) whole := by
  have lengths := congrArg List.length same
  rw [List.length_map, List.length_map] at lengths
  cases whole with
  | ok all =>
      change ((all.drop first).take others.length).map Parameter.column = _
      rw [lengths, same]
      exact shows
  | error failure =>
      cases failure with
      | unresolvedMarker ordinal span =>
          change first + others.length ≤ ordinal
          rw [lengths]
          exact shows
      | _ => trivial

theorem shows_resolvedBehind {first : Nat} {earlier : List Parameter}
    {part whole : Except ResolveError (List Parameter)} (shows : Shows first part whole) :
    Shows (first + earlier.length) part (resolvedBehind earlier 0 whole) := by
  cases part with
  | ok found =>
      cases whole with
      | ok all =>
          have same : ((all.drop first).take found.length).map Parameter.column =
              found.map Parameter.column := shows
          change ((List.drop _ (earlier ++ _)).take _).map _ = _
          rw [Nat.add_comm, List.drop_append, List.drop_of_length_le (Nat.le_add_right _ _),
            List.nil_append, Nat.add_sub_cancel_left, ← same, ← List.map_drop, ← List.map_take,
            List.map_map]
          rfl
      | error failure =>
          cases failure with
          | unresolvedMarker ordinal span =>
              have later : first + found.length ≤ ordinal := shows
              change first + earlier.length + found.length ≤ ordinal + earlier.length
              omega
          | _ => trivial
  | error failure =>
      cases failure with
      | unresolvedMarker ordinal span =>
          obtain ⟨place, rfl⟩ := shows
          refine ⟨place.shift 0, ?_⟩
          rw [Nat.add_right_comm]
          rfl
      | _ => cases shows

namespace ConditionIn

open Resolver

variable {text : String} {lexemes : List Lexeme} {columns : List String}

/-- The condition has these parameters, and what is joined to it by `AND` or `OR` is resolved as if
it stood right behind the `WHERE`. -/
structure Resolves (inside : ConditionIn text lexemes) (found : List Parameter) : Prop where
  alone : inside.after = [] → resolve text = .ok (inside.earlier ++ found)
  shown : Shows inside.earlier.length (.ok found) (resolve text)
  joined : ∀ conjunction rest, inside.after = conjunction :: rest →
    conjunction.kind = .keyword .AND ∨ conjunction.kind = .keyword .OR →
    resolve text =
      resolvedBehind (inside.earlier ++ found) 0 (resolveTokens (inside.whereWord :: rest))

theorem resolve_eq (inside : ConditionIn text lexemes) :
    resolve text = resolvedBehind inside.earlier 0
      ((settled conditional [] []).run (inside.condition ++ inside.after) >>= finish) := by
  rw [resolve_of_tokenize inside.tokenized,
    resolveTokens_append_where inside.resolved inside.noInsert inside.isWhere,
    resolveTokens_where inside.isWhere]

theorem resolves (inside : ConditionIn text lexemes)
    (reads : Reads none [] (· = conditional) lexemes columns Group.AtRest) :
    ∃ found, found.map Parameter.column = columns ∧ inside.Resolves found := by
  obtain ⟨left, found, bound, kept, ran⟩ := run_condition reads inside.spell inside.ends
  have whole := inside.resolve_eq
  rw [ran] at whole
  refine ⟨found.map (Parameter.shift inside.earlier.length 0), ?_, ?_, ?_, ?_⟩
  · rw [List.map_map]
    exact bound
  · intro nothing
    rw [whole, nothing]
    rfl
  · have begun : (settled left [] found).parameters.map someColumn =
        (settled conditional [] []).parameters.map someColumn ++ found.map someColumn := rfl
    have shown : Shows (0 + inside.earlier.length) (.ok found) (resolvedBehind inside.earlier 0
        ((settled left [] found).run inside.after >>= finish)) :=
      shows_resolvedBehind (shows_of_run begun)
    rw [← whole] at shown
    rw [← Nat.zero_add inside.earlier.length]
    refine shows_congr ?_ shown
    rw [List.map_map]
    rfl
  · intro conjunction rest split joins
    rw [whole, split, run_conjunction kept joins, resolvedBehind_resolvedBehind,
      resolveTokens_where inside.isWhere]

/-- Of a condition that is joined to another one, the markers bind as on their own. -/
theorem Resolves.followed {inside : ConditionIn text lexemes} {found : List Parameter}
    {conjunction : Token} {tail : List Token} {others : List Lexeme}
    (resolves : inside.Resolves found) (split : inside.after = conjunction :: tail)
    (joins : conjunction.kind = .keyword .AND ∨ conjunction.kind = .keyword .OR)
    (reads : Reads none [] (· = conditional) others columns Group.AtRest)
    (spell : Spell tail others) :
    ∃ more, more.map Parameter.column = columns ∧
      resolve text = .ok (inside.earlier ++ found ++ more) := by
  have nothing : opensGroup [] = false := rfl
  obtain ⟨left, more, bound, -, ran⟩ := run_condition reads spell nothing
  rw [List.append_nil] at ran
  rw [resolves.joined conjunction tail split joins, resolveTokens_where inside.isWhere, ran]
  refine ⟨_, ?_, rfl⟩
  rw [List.map_map]
  exact bound

/-- A condition with a marker that has no column decides the outcome of the text. -/
theorem refused {ordinal : Nat} (inside : ConditionIn text lexemes)
    (refused : (settled conditional [] []).run (lexemes.map Lexeme.token) =
      .error (.unresolvedMarker ordinal default)) :
    ∃ span, resolve text = .error (.unresolvedMarker (inside.earlier.length + ordinal) span) := by
  obtain ⟨span, stopped⟩ := run_condition_of_error inside.spell refused inside.ends
  refine ⟨span.shift 0, ?_⟩
  rw [inside.resolve_eq, stopped, Nat.add_comm]
  rfl

end ConditionIn

end BindStream
