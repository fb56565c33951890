import BindStream.Proofs.Resolver.Refilling
import BindStream.Proofs.Resolver.Sight

namespace BindStream

open Text

/-! What stands behind a marker decides nothing about it. Texts that begin alike have the same
tokens up to each marker in the part that they share, wherever that part ends. -/

/-- The span lies in what a statement begins with. -/
def Span.within (span : Span) (text : String) : Bool := span.stop ≤ byteLength text.toList

/-- Of two ways to cut a text in two, the one with the shorter first part cuts the other's first
part. -/
theorem Text.exists_append_of_byteLength_le {a b c d : List Char} (same : a ++ b = c ++ d)
    (shorter : byteLength a ≤ byteLength c) : ∃ e, c = a ++ e := by
  rcases List.append_eq_append_iff.mp same with ⟨e, rfl, -⟩ | ⟨e, rfl, -⟩
  · exact ⟨e, rfl⟩
  · rw [byteLength_append] at shorter
    have nothing : e = [] := by
      by_contra filled
      have positive := byteLength_pos filled
      omega
    exact ⟨[], by rw [nothing, List.append_nil, List.append_nil]⟩

namespace Piece

variable {d : Char} {s : List Char} {before after : List Piece} {unread : List Char}

/-- The pieces before a character that ends words, numbers and operators are the same whatever
stands behind it. -/
theorem split_append_stop (stops : Stops d)
    (splits : split (before.flatMap text ++ d :: s) = (before ++ after, unread)) (t : List Char) :
    split (before.flatMap text ++ d :: t) =
      (before ++ (split (d :: t)).1, (split (d :: t)).2) := by
  induction before with
  | nil => rfl
  | cons piece before ih =>
      rw [List.flatMap_cons, List.append_assoc] at splits ⊢
      obtain ⟨rest, whole, fits, splitRest⟩ := exists_of_split_cons splits
      obtain rfl := List.append_cancel_left whole
      have refitted : piece.Fits (before.flatMap text ++ d :: t) := fits.congr_stop stops t
      rw [refitted.split, ih splitRest]
      rfl

theorem split_mark (s : List Char) :
    split ('?' :: s) = (.token .marker ['?'] :: (split s).1, (split s).2) := by
  have fits : (Piece.token .marker ['?']).Fits s := IsToken.mark rfl
  exact fits.split

end Piece

variable {shared first second : String} {before after : List Token} {marker : Token}

/-- A marker in the shared part lies there with all the pieces before it. -/
theorem exists_pieces_of_shared
    (scanned : (scan (shared ++ first)).tokens = before ++ marker :: after)
    (marked : marker.isMarker = true) (within : marker.span.within shared = true) :
    ∃ pieces rest behind stop,
      shared.toList = pieces.flatMap Piece.text ++ '?' :: behind ∧
      (Piece.split (shared ++ first).toList).1 = pieces ++ .token .marker ['?'] :: rest ∧
      ∀ more, Piece.tokens 0 (pieces ++ .token .marker ['?'] :: more) =
        before ++ marker :: Piece.tokens stop more := by
  obtain ⟨pieces, kind, content, rest, splits, rfl, here⟩ :=
    Piece.exists_of_tokens_eq_append scanned
  obtain ⟨rfl, -⟩ := List.cons.inj here
  obtain rfl : kind = .marker := eq_of_beq marked
  have member : Piece.token .marker content ∈ (Piece.split (shared ++ first).toList).1 := by
    rw [splits]
    exact List.mem_append_right _ List.mem_cons_self
  obtain rfl := Piece.text_of_marker_mem_split member
  have whole := Piece.split_append (shared ++ first).toList
  rw [splits, List.flatMap_append, List.flatMap_cons, String.toList_append, List.append_assoc,
    List.append_assoc, ← List.append_assoc] at whole
  have shorter : byteLength (pieces.flatMap Piece.text ++ ['?']) ≤ byteLength shared.toList := by
    rw [byteLength_append, ← Nat.zero_add (byteLength (pieces.flatMap _))]
    exact of_decide_eq_true within
  obtain ⟨behind, shares⟩ := exists_append_of_byteLength_le whole shorter
  rw [List.append_assoc] at shares
  exact ⟨pieces, rest, behind, _, shares, splits, fun more => Piece.tokens_append 0 pieces _⟩

/-- The part that two texts share holds the same tokens up to each of its markers. -/
theorem scan_tokens_of_shared (second : String)
    (scanned : (scan (shared ++ first)).tokens = before ++ marker :: after)
    (marked : marker.isMarker = true) (within : marker.span.within shared = true) :
    ∃ others, (scan (shared ++ second)).tokens = before ++ marker :: others := by
  obtain ⟨pieces, rest, behind, stop, shares, splits, tokens⟩ :=
    exists_pieces_of_shared scanned marked within
  have chars (more : String) : (shared ++ more).toList =
      pieces.flatMap Piece.text ++ '?' :: (behind ++ more.toList) := by
    rw [String.toList_append, shares, List.append_assoc]
    rfl
  have splitsWhole : Piece.split (pieces.flatMap Piece.text ++ '?' :: (behind ++ first.toList)) =
      (pieces ++ .token .marker ['?'] :: rest, (Piece.split (shared ++ first).toList).2) := by
    rw [← chars]
    exact Prod.ext splits rfl
  refine ⟨Piece.tokens stop (Piece.split (behind ++ second.toList)).1, ?_⟩
  rw [← tokens, scan, Scan.ofChars, chars,
    Piece.split_append_stop (by decide) splitsWhole (behind ++ second.toList), Piece.split_mark]

/-- What a text that resolves has at a marker in the shared part, the other text has as well. -/
theorem getElem?_of_shared {found others : List Parameter} {ordinal : Nat} {parameter : Parameter}
    (resolved : resolve (shared ++ first) = .ok found)
    (resolvedToo : resolve (shared ++ second) = .ok others)
    (within : parameter.span.within shared = true) (listed : found[ordinal]? = some parameter) :
    others[ordinal]? = some parameter := by
  obtain ⟨before, marker, after, tokenized, marked, counted, place, seen⟩ :=
    (getElem?_of_resolve_iff resolved).mp listed
  have here : marker.span.within shared = true := by
    rw [← (Prod.mk.inj place).2]
    exact within
  obtain ⟨behind, scanned⟩ :=
    scan_tokens_of_shared second (tokenize_eq_ok tokenized).2 marked here
  have tokenizedToo := tokenize_of_resolve resolvedToo nofun
  rw [scanned] at tokenizedToo
  exact (getElem?_of_resolve_iff resolvedToo).mpr
    ⟨before, marker, behind, tokenizedToo, marked, counted, place, seen⟩

theorem filter_eq_of_getElem? {α : Type} {p : α → Bool} {xs ys : List α}
    (same : ∀ (i : Nat) (x : α), p x = true → (xs[i]? = some x ↔ ys[i]? = some x)) :
    xs.filter p = ys.filter p := by
  induction xs generalizing ys with
  | nil =>
      refine (List.filter_eq_nil_iff.mpr fun y member holds => ?_).symm
      obtain ⟨i, listed⟩ := List.mem_iff_getElem?.mp member
      cases (same i y holds).mpr listed
  | cons x xs ih =>
      cases ys with
      | nil =>
          refine List.filter_eq_nil_iff.mpr fun z member holds => ?_
          obtain ⟨i, listed⟩ := List.mem_iff_getElem?.mp member
          cases (same i z holds).mp listed
      | cons y ys =>
          have tails := ih fun i z holds => same (i + 1) z holds
          have heads (z : α) (holds : p z = true) : x = z ↔ y = z := by
            have here := same 0 z holds
            rwa [List.getElem?_cons_zero, List.getElem?_cons_zero, Option.some.injEq,
              Option.some.injEq] at here
          cases keeps : p x with
          | true =>
              obtain rfl := (heads x keeps).mp rfl
              rw [List.filter_cons_of_pos keeps, List.filter_cons_of_pos keeps, tails]
          | false =>
              have drops : p y = false := by
                by_contra holds
                have keepsToo := Bool.eq_true_of_not_eq_false holds
                obtain rfl := (heads y keepsToo).mpr rfl
                cases keeps.symm.trans keepsToo
              rw [List.filter_cons, List.filter_cons, keeps, drops]
              exact tails

/-- Of two texts, a part that they begin with decides for its markers: their parameters, if both
texts resolve, and the failure at one of them. -/
theorem resolve_looks_back (shared first second : String) :
    (∀ found others, resolve (shared ++ first) = .ok found →
      resolve (shared ++ second) = .ok others →
      found.filter (·.span.within shared) = others.filter (·.span.within shared)) ∧
    ∀ ordinal span tokens,
      resolve (shared ++ first) = .error (.unresolvedMarker ordinal span) →
      span.within shared = true → tokenize (shared ++ second) = .ok tokens →
      resolve (shared ++ second) = .error (.unresolvedMarker ordinal span) := by
  constructor
  · intro found others resolved resolvedToo
    refine filter_eq_of_getElem? fun ordinal parameter within => ?_
    exact ⟨getElem?_of_shared resolved resolvedToo within,
      getElem?_of_shared resolvedToo resolved within⟩
  · intro ordinal span tokens failed within tokenizedToo
    have tokenized := tokenize_of_resolve failed nofun
    rw [resolve_of_tokenize tokenized, resolveTokens_eq_error_iff] at failed
    cases failed with
    | @offence before after token _ split clean offends =>
        cases offends with
        | unresolved marked unseen =>
            obtain ⟨behind, scanned⟩ := scan_tokens_of_shared second split marked within
            rw [resolve_of_tokenize tokenizedToo, ← (tokenize_eq_ok tokenizedToo).2, scanned]
            exact resolveTokens_of_offence clean (.unresolved marked unseen)

theorem resolve_looks_back_past_cut_tokens :
    (∃ found others, resolve "a = ? AND b = ?" = .ok found ∧
      resolve "a = ? AND b(c) = ?" = .ok others ∧ found ≠ others ∧
      found.filter (·.span.within "a = ? AND b") =
        others.filter (·.span.within "a = ? AND b")) ∧
    resolve "a = ? OR ? /* x" = .error (.unresolvedMarker 1 ⟨9, 10⟩) ∧
      resolve "a = ? OR ? /2" = .error (.unresolvedMarker 1 ⟨9, 10⟩) := by
  have resolved : resolve ("a = ? AND b" ++ " = ?") =
      .ok [⟨0, "A", ⟨4, 5⟩⟩, ⟨1, "B", ⟨14, 15⟩⟩] := by
    cbv
  have resolvedToo : resolve ("a = ? AND b" ++ "(c) = ?") =
      .ok [⟨0, "A", ⟨4, 5⟩⟩, ⟨1, "C", ⟨17, 18⟩⟩] := by
    cbv
  have failed : resolve ("a = ? OR ? /" ++ "* x") = .error (.unresolvedMarker 1 ⟨9, 10⟩) := by
    cbv
  have tokenized : tokenize ("a = ? OR ? /" ++ "2") = .ok [⟨.identifier, "a", ⟨0, 1⟩⟩,
      ⟨.operator, "=", ⟨2, 3⟩⟩, ⟨.marker, "?", ⟨4, 5⟩⟩, ⟨.keyword .OR, "OR", ⟨6, 8⟩⟩,
      ⟨.marker, "?", ⟨9, 10⟩⟩, ⟨.operator, "/", ⟨11, 12⟩⟩, ⟨.number, "2", ⟨12, 13⟩⟩] := by
    cbv
  refine ⟨⟨_, _, resolved, resolvedToo, by decide, ?_⟩, failed, ?_⟩
  · exact (resolve_looks_back "a = ? AND b" " = ?" "(c) = ?").1 _ _ resolved resolvedToo
  · exact (resolve_looks_back "a = ? OR ? /" "* x" "2").2 1 ⟨9, 10⟩ _ failed (by decide) tokenized

end BindStream
