import Mathlib
import BindStream.Proofs.Resolver.Restart
import BindStream.Proofs.Token.LineBreak

namespace BindStream

/-! Statements one after the other in one text. -/

theorem resolveTokens_append {tokens : List Token} {found : List Parameter}
    (resolved : resolveTokens tokens = .ok found) {semicolon : Token}
    (ends : semicolon.kind = .semicolon) (n : Nat) (more : List Token) :
    resolveTokens (tokens ++ semicolon :: more.map (Token.shift n)) =
      resolvedBehind found n (resolveTokens more) := by
  obtain ⟨last, ran, whole, rfl⟩ := resolveTokens_eq_ok resolved
  have accepted (callFollows : Bool) :
      last.accept semicolon callFollows = .ok last.endStatement := by
    rw [Resolver.accept, ends]
  have joined : Resolver.initial.run (tokens ++ semicolon :: more.map (Token.shift n)) =
      last.endStatement.run (more.map (Token.shift n)) := by
    have ends : Resolver.opensGroup (semicolon :: more.map (Token.shift n)) =
        Resolver.opensGroup [] := Resolver.opensGroup_of_kind ends rfl
    rw [Resolver.run_append, Resolver.runBefore_congr ends, ← Resolver.run_eq_runBefore, ran]
    exact Resolver.run_cons_of_ok (accepted _)
  calc
    resolveTokens (tokens ++ semicolon :: more.map (Token.shift n))
    _ = last.endStatement.run (more.map (Token.shift n)) >>= Resolver.finish := by
      rw [resolveTokens, joined]
    _ = resolvedBehind last.parameters 0
          ((Resolver.initial.mapSpans (Span.shift n)).run (more.map (Token.shift n)) >>=
            Resolver.finish) :=
      (Resolver.continues_endStatement ran whole (Span.shift n)).outcome _
    _ = resolvedBehind last.parameters n (resolveTokens more) := by
      rw [← resolvedBehind_mapOutcome last.parameters n, ← Resolver.outcome_map_mapSpan]
      rfl

theorem resolve_eq_scan (text : String) :
    resolve text =
      match (scan text).failure with
      | some failure => .error (.unterminatedLiteral failure.span)
      | none => resolveTokens (scan text).tokens := by
  unfold resolve tokenize
  cases (scan text).failure <;> rfl

theorem scan_sequence {text : String} (whole : (scan text).failure = none)
    (closed : endsInComment text = false) (more : String) :
    ∃ semicolon : Token, semicolon.kind = .semicolon ∧
      scan (text ++ "\n;" ++ more) = (scan more).behind ((scan text).tokens ++ [semicolon])
        (Text.byteLength text.toList + 2) := by
  have joined : text ++ "\n;" ++ more = text ++ "\n" ++ (";" ++ more) := by
    have both : "\n;" = "\n" ++ ";" := rfl
    simp only [both, String.append_assoc]
  refine ⟨Token.shift (Text.byteLength text.toList + 1) ⟨.semicolon, ";", ⟨0, 1⟩⟩, rfl, ?_⟩
  rw [joined, scan_append_newline whole closed, scan_semicolon, Scan.behind_behind,
    Nat.add_comm 1]
  rfl

/-- A text that resolves and ends outside comments leaves nothing behind for the statements that
follow it: they come to what they come to alone. -/
theorem resolve_sequence {text : String} {found : List Parameter}
    (resolved : resolve text = .ok found) (closed : endsInComment text = false) (more : String) :
    resolve (text ++ "\n;" ++ more) =
      match resolve more with
      | .ok others =>
        .ok (found ++ others.map
          (Parameter.shift found.length (Text.byteLength text.toList + 2)))
      | .error failure =>
        .error (failure.shift found.length (Text.byteLength text.toList + 2)) := by
  have whole : (scan text).failure = none := by
    rw [resolve_eq_scan] at resolved
    cases failed : (scan text).failure with
    | none => rfl
    | some failure =>
        rw [failed] at resolved
        cases resolved
  obtain ⟨semicolon, ends, scanned⟩ := scan_sequence whole closed more
  rw [resolve_eq_scan, whole] at resolved
  rw [resolve_eq_scan, scanned, resolve_eq_scan more]
  cases failed : (scan more).failure with
  | some failure =>
      rw [Scan.behind, failed]
      rfl
  | none =>
      have alone := resolveTokens_append resolved ends (Text.byteLength text.toList + 2)
        (scan more).tokens
      rw [Scan.behind, failed, Option.map_none, List.append_assoc, List.singleton_append]
      dsimp only
      rw [alone]
      cases resolveTokens (scan more).tokens <;> rfl

theorem resolve_sequence_behind_insert :
    resolve "INSERT INTO t (a) VALUES (?) -- one" = .ok [⟨0, "A", ⟨26, 27⟩⟩] ∧
      endsInComment "INSERT INTO t (a) VALUES (?) -- one" = false ∧
      resolve ("INSERT INTO t (a) VALUES (?) -- one" ++ "\n;" ++ "b = ?") =
        .ok [⟨0, "A", ⟨26, 27⟩⟩, ⟨1, "B", ⟨41, 42⟩⟩] ∧
      resolve ("INSERT INTO t (a) VALUES (?) -- one" ++ "\n;" ++ "? = b") =
        .error (.unresolvedMarker 1 ⟨37, 38⟩) := by
  have resolved :
      resolve "INSERT INTO t (a) VALUES (?) -- one" = .ok [⟨0, "A", ⟨26, 27⟩⟩] := by
    cbv
  have closed : endsInComment "INSERT INTO t (a) VALUES (?) -- one" = false := by
    cbv
  have binds : resolve "b = ?" = .ok [⟨0, "B", ⟨4, 5⟩⟩] := by
    cbv
  have fails : resolve "? = b" = .error (.unresolvedMarker 0 ⟨0, 1⟩) := by
    cbv
  refine ⟨resolved, closed, ?_, ?_⟩
  · rw [resolve_sequence resolved closed, binds]
    rfl
  · rw [resolve_sequence resolved closed, fails]
    rfl

/-- A comment that is not closed goes on over what follows it. -/
example : endsInComment "a = ? /* one" = true ∧
    resolve ("a = ? /* one" ++ "\n;" ++ "b = ?") = .ok [⟨0, "A", ⟨4, 5⟩⟩] := by
  refine ⟨?_, ?_⟩ <;> cbv

end BindStream
