import Mathlib
import BindStream.Proofs.Resolver.Run
import BindStream.Proofs.Token.Grammar

namespace BindStream

/-! The parameters of a statement are its markers, one for one. -/

def markers (text : String) : List Token := (scan text).tokens.filter Token.isMarker

def Parameter.place (parameter : Parameter) : Nat × Span :=
  (parameter.ordinal, parameter.span)

/-- The markers among some tokens, numbered from `start`, each with its span. -/
def markerPlaces (start : Nat) (tokens : List Token) : List (Nat × Span) :=
  ((tokens.filter Token.isMarker).zipIdx start).map fun (marker, ordinal) =>
    (ordinal, marker.span)

theorem length_markers (text : String) : (markers text).length = countMarkers text :=
  List.countP_eq_length_filter.symm

theorem markerPlaces_cons_of_isMarker {start : Nat} {token : Token} {tokens : List Token}
    (marked : token.isMarker = true) :
    markerPlaces start (token :: tokens) =
      (start, token.span) :: markerPlaces (start + 1) tokens := by
  simp [markerPlaces, marked]

theorem markerPlaces_cons_of_not_isMarker {start : Nat} {token : Token}
    {tokens : List Token} (unmarked : token.isMarker = false) :
    markerPlaces start (token :: tokens) = markerPlaces start tokens := by
  simp [markerPlaces, unmarked]

theorem markerPlaces_getElem? (tokens : List Token) (ordinal : Nat) :
    (markerPlaces 0 tokens)[ordinal]? =
      (tokens.filter Token.isMarker)[ordinal]?.map fun marker => (ordinal, marker.span) := by
  cases found : (tokens.filter Token.isMarker)[ordinal]? <;>
    simp [markerPlaces, List.getElem?_zipIdx, found]

theorem mem_markerPlaces {tokens : List Token} {ordinal : Nat} {span : Span} :
    (ordinal, span) ∈ markerPlaces 0 tokens ↔
      (tokens.filter Token.isMarker)[ordinal]?.map Token.span = some span := by
  simp only [markerPlaces, List.mem_map, Prod.exists, Prod.mk.injEq,
    List.mem_zipIdx_iff_getElem?, Option.map_eq_some_iff]
  constructor
  · rintro ⟨marker, _, found, rfl, rfl⟩
    exact ⟨marker, found, rfl⟩
  · rintro ⟨marker, found, rfl⟩
    exact ⟨marker, ordinal, found, rfl, rfl⟩

theorem map_span_markerPlaces (start : Nat) (tokens : List Token) :
    (markerPlaces start tokens).map Prod.snd =
      (tokens.filter Token.isMarker).map Token.span := by
  rw [markerPlaces, List.map_map]
  change List.map (Token.span ∘ Prod.fst) _ = _
  rw [← List.map_map, List.zipIdx_map_fst]

namespace Resolver

variable {resolver last : Resolver} {tokens : List Token}

/-- A run that reaches its end has made one parameter of each marker. -/
theorem run_places (ran : resolver.run tokens = .ok last) :
    last.parameters.map Parameter.place =
      resolver.parameters.map Parameter.place ++
        markerPlaces resolver.parameters.length tokens := by
  induction tokens generalizing resolver with
  | nil =>
      cases ran
      exact (List.append_nil _).symm
  | cons token tokens ih =>
      cases accepted : resolver.accept token (opensGroup tokens) with
      | error failure =>
          rw [run_cons_of_error accepted] at ran
          cases ran
      | ok next =>
          rw [run_cons_of_ok accepted] at ran
          have tail := ih ran
          cases marked : token.isMarker with
          | true =>
              rw [accept_of_isMarker marked] at accepted
              obtain ⟨column, -, rfl⟩ := marker_eq_ok accepted
              rw [markerPlaces_cons_of_isMarker marked, tail]
              simp [Parameter.place]
          | false =>
              rw [parameters_accept marked accepted] at tail
              rw [markerPlaces_cons_of_not_isMarker marked, tail]

theorem run_unresolved {ordinal : Nat} {span : Span}
    (ran : resolver.run tokens = .error (.unresolvedMarker ordinal span)) :
    (ordinal, span) ∈ markerPlaces resolver.parameters.length tokens := by
  induction tokens generalizing resolver with
  | nil => cases ran
  | cons token tokens ih =>
      cases accepted : resolver.accept token (opensGroup tokens) with
      | error failure =>
          rw [run_cons_of_error accepted] at ran
          cases marked : token.isMarker with
          | true =>
              rw [accept_of_isMarker marked] at accepted
              obtain ⟨-, rfl⟩ := marker_eq_error accepted
              cases ran
              rw [markerPlaces_cons_of_isMarker marked]
              exact List.mem_cons_self
          | false =>
              obtain ⟨-, -, rfl⟩ := accept_eq_error marked accepted
              cases ran
      | ok next =>
          rw [run_cons_of_ok accepted] at ran
          have tail := ih ran
          cases marked : token.isMarker with
          | true =>
              rw [accept_of_isMarker marked] at accepted
              obtain ⟨column, -, rfl⟩ := marker_eq_ok accepted
              rw [markerPlaces_cons_of_isMarker marked]
              rw [List.length_append] at tail
              exact List.mem_cons_of_mem _ tail
          | false =>
              rw [parameters_accept marked accepted] at tail
              rw [markerPlaces_cons_of_not_isMarker marked]
              exact tail

end Resolver

theorem resolve_places {text : String} {found : List Parameter}
    (resolved : resolve text = .ok found) :
    found.map Parameter.place = markerPlaces 0 (scan text).tokens := by
  have tokens := resolve_eq_resolveTokens resolved (by simp)
  obtain ⟨last, ran, -, rfl⟩ := resolveTokens_eq_ok tokens
  exact Resolver.run_places ran

theorem resolve_unresolved {text : String} {ordinal : Nat} {span : Span}
    (failed : resolve text = .error (.unresolvedMarker ordinal span)) :
    (ordinal, span) ∈ markerPlaces 0 (scan text).tokens := by
  have tokens := resolve_eq_resolveTokens failed (by simp)
  exact Resolver.run_unresolved (resolveTokens_eq_unresolved tokens)

/-! Each marker is one question mark. -/

theorem Piece.text_of_marker_mem_split {s text : List Char}
    (member : Piece.token .marker text ∈ (Piece.split s).1) : text = ['?'] := by
  obtain ⟨rest, fits⟩ := Piece.exists_fits_of_mem_split _ member
  exact IsToken.text_of_marker fits

theorem text_of_mem_markers {text : String} {token : Token} (member : token ∈ markers text) :
    token.text = "?" := by
  obtain ⟨scanned, marked⟩ := List.mem_filter.mp member
  have kind : token.kind = .marker := eq_of_beq marked
  have piece := Piece.exists_of_mem_tokens scanned
  rw [kind] at piece
  rw [← String.ofList_toList (s := token.text), Piece.text_of_marker_mem_split piece]

theorem slice?_of_mem_markers {text : String} {token : Token}
    (member : token ∈ markers text) : token.span.slice? text = some "?" := by
  rw [← text_of_mem_markers member]
  exact (scan_tokens_cover text token (List.mem_filter.mp member).1).slice?

theorem markers_pairwise_precedes (text : String) :
    (markers text).Pairwise fun first second => first.span.Precedes second.span :=
  (scan_tokens_pairwise_precedes text).filter _

theorem map_span_of_resolve {text : String} {found : List Parameter}
    (resolved : resolve text = .ok found) :
    found.map Parameter.span = (markers text).map Token.span := by
  rw [markers, ← map_span_markerPlaces 0, ← resolve_places resolved, List.map_map]
  rfl

/-- The parameters of a statement are its markers, one for one and in place; a marker that stays
without a column is named by its number and its place. -/
theorem resolve_lists_markers (text : String) :
    (∀ found, resolve text = .ok found →
      found.length = countMarkers text ∧
      (∀ (i : Nat) (parameter : Parameter), found[i]? = some parameter →
        parameter.ordinal = i ∧
          (markers text)[i]?.map Token.span = some parameter.span) ∧
      (found.map Parameter.span).Pairwise Span.Precedes ∧
      ∀ parameter ∈ found, parameter.span.slice? text = some "?") ∧
    ∀ ordinal span, resolve text = .error (.unresolvedMarker ordinal span) →
      ordinal < countMarkers text ∧
        (markers text)[ordinal]?.map Token.span = some span := by
  constructor
  · intro found resolved
    have spans := map_span_of_resolve resolved
    refine ⟨?_, ?_, ?_, ?_⟩
    · have lengths := congrArg List.length spans
      rwa [List.length_map, List.length_map, length_markers] at lengths
    · intro i parameter at_i
      have places := congrArg (·[i]?) (resolve_places resolved)
      simp only [List.getElem?_map, at_i, Option.map_some, Parameter.place] at places
      rw [markerPlaces_getElem?] at places
      obtain ⟨marker, at_i, same⟩ := Option.map_eq_some_iff.mp places.symm
      obtain ⟨rfl, sameSpan⟩ := Prod.mk.inj same
      exact ⟨rfl, by rw [markers, at_i, Option.map_some, sameSpan]⟩
    · rw [spans, List.pairwise_map]
      exact markers_pairwise_precedes text
    · intro parameter member
      have covered : parameter.span ∈ (markers text).map Token.span :=
        spans ▸ List.mem_map_of_mem member
      obtain ⟨marker, marked, same⟩ := List.mem_map.mp covered
      rw [← same]
      exact slice?_of_mem_markers marked
  · intro ordinal span failed
    have place := mem_markerPlaces.mp (resolve_unresolved failed)
    obtain ⟨marker, at_ordinal, -⟩ := Option.map_eq_some_iff.mp place
    obtain ⟨inRange, -⟩ := List.getElem?_eq_some_iff.mp at_ordinal
    exact ⟨by rwa [← length_markers], place⟩

theorem resolve_lists_markers_of_two_conditions :
    (∃ found, resolve "a = ? OR b = ?" = .ok found ∧
      found.length = countMarkers "a = ? OR b = ?") ∧
    resolve "a = ? OR ? = b" = .error (.unresolvedMarker 1 ⟨9, 10⟩) ∧
      1 < countMarkers "a = ? OR ? = b" := by
  have resolved :
      resolve "a = ? OR b = ?" = .ok [⟨0, "A", ⟨4, 5⟩⟩, ⟨1, "B", ⟨13, 14⟩⟩] := by
    cbv
  have failed : resolve "a = ? OR ? = b" = .error (.unresolvedMarker 1 ⟨9, 10⟩) := by
    cbv
  exact ⟨⟨_, resolved, ((resolve_lists_markers _).1 _ resolved).1⟩, failed,
    ((resolve_lists_markers _).2 1 ⟨9, 10⟩ failed).1⟩

end BindStream
