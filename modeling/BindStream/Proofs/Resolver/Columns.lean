import BindStream.Proofs.Resolver.Spans

namespace BindStream

/-! What the markers among some tokens are bound to. -/

namespace Resolver

variable {resolver next : Resolver} {token : Token} {tokens rest : List Token}

def columnAt (resolver : Resolver) (token : Token) : List (Option String) :=
  if token.isMarker then [resolver.column?] else []

/-- The columns of the markers among some tokens that `rest` follows, up to the first marker
without one. -/
def columnsBefore (rest : List Token) (resolver : Resolver) :
    List Token → List (Option String)
  | [] => []
  | token :: tokens =>
    match resolver.accept token (opensGroup (tokens ++ rest)) with
    | .error _ => resolver.columnAt token
    | .ok next => resolver.columnAt token ++ columnsBefore rest next tokens

theorem columnsBefore_cons_of_ok
    (accepted : resolver.accept token (opensGroup (tokens ++ rest)) = .ok next) :
    columnsBefore rest resolver (token :: tokens) =
      resolver.columnAt token ++ columnsBefore rest next tokens := by
  rw [columnsBefore, accepted]

theorem columnsBefore_cons_of_error {failure : ResolveError}
    (refused : resolver.accept token (opensGroup (tokens ++ rest)) = .error failure) :
    columnsBefore rest resolver (token :: tokens) = resolver.columnAt token := by
  rw [columnsBefore, refused]

theorem columnAt_of_isMarker (marked : token.isMarker = true) :
    resolver.columnAt token = [resolver.column?] := if_pos marked

theorem columnAt_of_not_isMarker (unmarked : token.isMarker = false) :
    resolver.columnAt token = [] := by
  rw [columnAt, unmarked]
  rfl

theorem columnAt_congr {other : Resolver}
    (same : token.isMarker = true → resolver.column? = other.column?) :
    resolver.columnAt token = other.columnAt token := by
  cases marked : token.isMarker with
  | true => rw [columnAt_of_isMarker marked, columnAt_of_isMarker marked, same marked]
  | false => rw [columnAt_of_not_isMarker marked, columnAt_of_not_isMarker marked]

theorem head?_columnsBefore (marked : token.isMarker = true) :
    (columnsBefore rest resolver (token :: tokens)).head? = some resolver.column? := by
  cases accepted : resolver.accept token (opensGroup (tokens ++ rest)) with
  | error failure =>
      rw [columnsBefore_cons_of_error accepted, columnAt_of_isMarker marked]
      rfl
  | ok next =>
      rw [columnsBefore_cons_of_ok accepted, columnAt_of_isMarker marked]
      rfl

def someColumn (parameter : Parameter) : Option String := some parameter.column

theorem map_someColumn_of_accept {callFollows : Bool}
    (accepted : resolver.accept token callFollows = .ok next) :
    next.parameters.map someColumn =
      resolver.parameters.map someColumn ++ resolver.columnAt token := by
  cases marked : token.isMarker with
  | true =>
      rw [accept_of_isMarker marked] at accepted
      obtain ⟨column, found, rfl⟩ := marker_eq_ok accepted
      rw [columnAt_of_isMarker marked, found, List.map_append]
      rfl
  | false =>
      rw [parameters_accept marked accepted, columnAt_of_not_isMarker marked, List.append_nil]

theorem map_someColumn_of_runBefore (ran : runBefore rest resolver tokens = .ok next) :
    next.parameters.map someColumn =
      resolver.parameters.map someColumn ++ columnsBefore rest resolver tokens := by
  induction tokens generalizing resolver with
  | nil =>
      cases ran
      exact (List.append_nil _).symm
  | cons token tokens ih =>
      cases accepted : resolver.accept token (opensGroup (tokens ++ rest)) with
      | error failure =>
          rw [runBefore_cons, accepted] at ran
          cases ran
      | ok middle =>
          rw [runBefore_cons_of_ok accepted] at ran
          rw [columnsBefore_cons_of_ok accepted, ih ran,
            map_someColumn_of_accept accepted, List.append_assoc]

theorem columnsBefore_of_unresolved {ordinal : Nat} {span : Span}
    (ran : runBefore rest resolver tokens = .error (.unresolvedMarker ordinal span)) :
    ∃ columns : List String,
      columnsBefore rest resolver tokens = columns.map some ++ [none] ∧
        ordinal = resolver.parameters.length + columns.length := by
  induction tokens generalizing resolver with
  | nil => cases ran
  | cons token tokens ih =>
      cases accepted : resolver.accept token (opensGroup (tokens ++ rest)) with
      | error failure =>
          rw [runBefore_cons, accepted] at ran
          cases ran
          rw [columnsBefore_cons_of_error accepted]
          cases marked : token.isMarker with
          | true =>
              rw [accept_of_isMarker marked] at accepted
              obtain ⟨missing, same⟩ := marker_eq_error accepted
              cases same
              exact ⟨[], by rw [columnAt_of_isMarker marked, missing]; rfl, rfl⟩
          | false =>
              obtain ⟨-, -, same⟩ := accept_eq_error marked accepted
              cases same
      | ok middle =>
          rw [runBefore_cons_of_ok accepted] at ran
          rw [columnsBefore_cons_of_ok accepted]
          obtain ⟨columns, tail, rfl⟩ := ih ran
          cases marked : token.isMarker with
          | true =>
              rw [accept_of_isMarker marked] at accepted
              obtain ⟨column, found, rfl⟩ := marker_eq_ok accepted
              refine ⟨column :: columns, ?_, ?_⟩
              · rw [columnAt_of_isMarker marked, found, tail]
                rfl
              · simp only [List.length_append, List.length_cons, List.length_nil]
                omega
          | false =>
              rw [parameters_accept marked accepted]
              exact ⟨columns, by rw [columnAt_of_not_isMarker marked, tail]; rfl, rfl⟩

theorem columnsBefore_mapSpans (f : Span → Span) (rest : List Token)
    (resolver : Resolver) (tokens : List Token) :
    columnsBefore (rest.map (Token.mapSpan f)) (resolver.mapSpans f)
        (tokens.map (Token.mapSpan f)) =
      columnsBefore rest resolver tokens := by
  induction tokens generalizing resolver with
  | nil => rfl
  | cons token tokens ih =>
      have here : (resolver.mapSpans f).columnAt (token.mapSpan f) =
          resolver.columnAt token := by
        rw [columnAt, column?_mapSpans]
        rfl
      rw [List.map_cons, columnsBefore, columnsBefore, ← List.map_append,
        opensGroup_map_mapSpan, accept_mapSpans, here]
      cases resolver.accept token (opensGroup (tokens ++ rest)) with
      | error failure => rfl
      | ok next => exact congrArg _ (ih next)

theorem columnsBefore_initial_congr {others : List Token}
    (same : tokens.map Token.word = others.map Token.word) :
    columnsBefore [] .initial tokens = columnsBefore [] .initial others := by
  rw [← columnsBefore_mapSpans (fun _ => default) [] .initial tokens,
    map_mapSpan_congr_of_words same, columnsBefore_mapSpans]

theorem map_someColumn_of_resolveTokens {found : List Parameter}
    (resolved : resolveTokens tokens = .ok found) :
    found.map someColumn = columnsBefore [] .initial tokens := by
  obtain ⟨last, ran, -, rfl⟩ := resolveTokens_eq_ok resolved
  rw [run_eq_runBefore] at ran
  exact map_someColumn_of_runBefore ran

end Resolver

end BindStream
