import BindStream.Proofs.Resolver.Correspondence
import BindStream.Proofs.Token.LetterCase

namespace BindStream

open Text

/-! The case of ASCII letters is without effect on what a statement binds. -/

namespace Text

/-- The other case of an ASCII letter; every other character is itself. -/
def swapCase (c : Char) : Char := if c.isLower then c.toUpper else c.toLower

/-- The case of the letters at some places swapped. -/
def recase (swapped : Nat → Bool) (s : List Char) : List Char :=
  s.mapIdx fun place c => if swapped place then swapCase c else c

theorem swapCase_of_not_ascii {c : Char} (other : ¬c.toNat < 0x80) : swapCase c = c := by
  have isLower : c.isLower = false := by
    delta Char.isLower
    simp [UInt32.le_iff_toNat_le]
    omega
  have lower : c.toLower = c := by
    delta Char.toLower
    simp [UInt32.le_iff_toNat_le]
    omega
  rw [swapCase, isLower, lower]
  rfl

theorem toUpper_swapCase (c : Char) : (swapCase c).toUpper = c.toUpper := by
  by_cases small : c.toNat < 0x80
  · exact of_decide_eq_true
      (forall_ascii (p := fun c => decide ((swapCase c).toUpper = c.toUpper)) (by decide) small)
  · rw [swapCase_of_not_ascii small]

theorem capitals_recase (swapped : Nat → Bool) (s : List Char) :
    capitals (recase swapped s) = capitals s := by
  refine List.ext_getElem? fun place => ?_
  rw [capitals, capitals, recase, List.getElem?_map, List.getElem?_map, List.getElem?_mapIdx,
    Option.map_map]
  congr 1
  funext c
  dsimp only [Function.comp]
  split
  · exact toUpper_swapCase c
  · rfl

example : capitals (recase (· < 4) "abCd = 1e5".toList) = "ABCD = 1E5".toList := by decide

end Text

theorem corresponds_capitals (tokens : List Token) :
    Corresponds id tokens (tokens.map Token.capitals) := by
  rw [Corresponds, List.forall₂_map_right_iff]
  exact List.forall₂_same.mpr fun token _ => ⟨⟨rfl, token.columnName_capitals⟩, rfl⟩

theorem resolveTokens_capitals (tokens : List Token) :
    resolveTokens (tokens.map Token.capitals) = resolveTokens tokens := by
  have inPlace : tokens.map (Token.mapSpan id) = tokens := List.map_id tokens
  rw [resolveTokens, resolveTokens, Resolver.run_of_corresponds (corresponds_capitals tokens),
    inPlace]

theorem resolve_capitals (text : String) :
    resolve (String.ofList (capitals text.toList)) = resolve text := by
  have scanned : scan (String.ofList (capitals text.toList)) =
      ⟨(scan text).tokens.map Token.capitals, (scan text).failure⟩ := by
    rw [scan, String.toList_ofList, Scan.ofChars_capitals]
    rfl
  rw [resolve, resolve, tokenize, tokenize, scanned]
  cases (scan text).failure with
  | none => exact resolveTokens_capitals (scan text).tokens
  | some failure => rfl

/-- Texts that differ only in the case of ASCII letters come to the same parameters or to the same
failure, whichever letters these are. -/
theorem resolve_recased (swapped : Nat → Bool) (text : String) :
    resolve (String.ofList (recase swapped text.toList)) = resolve text := by
  have recased := resolve_capitals (String.ofList (recase swapped text.toList))
  rw [String.toList_ofList, capitals_recase, resolve_capitals] at recased
  exact recased.symm

end BindStream
