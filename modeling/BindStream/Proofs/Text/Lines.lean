import Mathlib
import BindStream.Text.Lines
import BindStream.Proofs.Text.Utf8

namespace BindStream.Text

/-! The lines of a content: how each one ends, that every content has them, and that the octets of
a text have the lines of the text. -/

variable {α : Type} [DecidableEq α] {lineFeed carriageReturn : α} {line content rest : List α}
  {lines : List (List α)}

/-- A content and its lines. A line ends with a line feed, or with a carriage return and a line
feed; the last one may end with the content, and keeps a carriage return then. -/
inductive Lined (lineFeed carriageReturn : α) : List α → List (List α) → Prop
  | nil : Lined lineFeed carriageReturn [] []
  | last {line : List α} (unbroken : lineFeed ∉ line) (nonempty : line ≠ []) :
      Lined lineFeed carriageReturn line [line]
  | lineFeed {line rest : List α} {lines : List (List α)} (unbroken : lineFeed ∉ line)
      (bare : line.getLast? ≠ some carriageReturn) (later : Lined lineFeed carriageReturn rest lines) :
      Lined lineFeed carriageReturn (line ++ lineFeed :: rest) (line :: lines)
  | both {line rest : List α} {lines : List (List α)} (unbroken : lineFeed ∉ line)
      (later : Lined lineFeed carriageReturn rest lines) :
      Lined lineFeed carriageReturn (line ++ carriageReturn :: lineFeed :: rest) (line :: lines)

/-! What the scan for line feeds makes of one line. -/

theorem stripReturn_of_bare (bare : line.getLast? ≠ some carriageReturn) :
    stripReturn carriageReturn line = line := if_neg bare

@[simp] theorem stripReturn_concat : stripReturn carriageReturn (line ++ [carriageReturn]) = line := by
  simp [stripReturn]

theorem cut_of_unbroken (unbroken : lineFeed ∉ line) : Lines.cut lineFeed line = ⟨[], line⟩ := by
  induction line with
  | nil => rfl
  | cons x line ih =>
      simp only [List.mem_cons, not_or] at unbroken
      rw [Lines.cut, if_neg (Ne.symm unbroken.1), ih unbroken.2, Lines.push]

theorem cut_append (unbroken : lineFeed ∉ line) :
    Lines.cut lineFeed (line ++ lineFeed :: rest) =
      ⟨line :: (Lines.cut lineFeed rest).ended, (Lines.cut lineFeed rest).rest⟩ := by
  induction line with
  | nil => exact if_pos rfl
  | cons x line ih =>
      simp only [List.mem_cons, not_or] at unbroken
      rw [List.cons_append, Lines.cut, if_neg (Ne.symm unbroken.1), ih unbroken.2, Lines.push]

theorem toList_cut_of_unbroken (unbroken : lineFeed ∉ line) (nonempty : line ≠ []) :
    (Lines.cut lineFeed line).toList carriageReturn = [line] := by
  simp [cut_of_unbroken unbroken, Lines.toList, nonempty]

theorem toList_cut_append (unbroken : lineFeed ∉ line) :
    (Lines.cut lineFeed (line ++ lineFeed :: rest)).toList carriageReturn =
      stripReturn carriageReturn line :: (Lines.cut lineFeed rest).toList carriageReturn := by
  simp [cut_append unbroken, Lines.toList]

/-! Every content has lines, and no others. -/

theorem Lined.toList_cut (distinct : carriageReturn ≠ lineFeed)
    (lined : Lined lineFeed carriageReturn content lines) :
    (Lines.cut lineFeed content).toList carriageReturn = lines := by
  induction lined with
  | nil => rfl
  | last unbroken nonempty => exact toList_cut_of_unbroken unbroken nonempty
  | lineFeed unbroken bare later ih =>
      rw [toList_cut_append unbroken, stripReturn_of_bare bare, ih]
  | @both line rest lines unbroken later ih =>
      have without : lineFeed ∉ line ++ [carriageReturn] := by
        simp [unbroken, Ne.symm distinct]
      rw [List.append_cons, toList_cut_append without, stripReturn_concat, ih]

theorem exists_lined (lineFeed carriageReturn : α) (content : List α) :
    ∃ lines, Lined lineFeed carriageReturn content lines := by
  induction length_eq : content.length using Nat.strong_induction_on generalizing content with
  | _ length ih =>
    by_cases broken : lineFeed ∈ content
    · obtain ⟨line, rest, rfl, unbroken⟩ := List.eq_append_cons_of_mem broken
      have shorter : rest.length < length := by
        rw [← length_eq, List.length_append, List.length_cons]
        omega
      obtain ⟨lines, later⟩ := ih _ shorter rest rfl
      by_cases returned : line.getLast? = some carriageReturn
      · obtain ⟨line, rfl⟩ := List.getLast?_eq_some_iff.mp returned
        simp only [List.mem_append, not_or] at unbroken
        rw [List.append_assoc, List.singleton_append]
        exact ⟨line :: lines, .both unbroken.1 later⟩
      · exact ⟨line :: lines, .lineFeed unbroken returned later⟩
    · by_cases empty : content = []
      · exact ⟨[], empty ▸ .nil⟩
      · exact ⟨[content], .last broken empty⟩

theorem lined_iff (distinct : carriageReturn ≠ lineFeed) :
    Lined lineFeed carriageReturn content lines ↔
      lines = (Lines.cut lineFeed content).toList carriageReturn := by
  constructor
  · intro lined
    exact (lined.toList_cut distinct).symm
  · rintro rfl
    obtain ⟨lines, lined⟩ := exists_lined lineFeed carriageReturn content
    rwa [lined.toList_cut distinct]

/-! Line ends in the octets of a text: an octet below 0x80 stands for itself. -/

theorem Spelled.ascii_of_mem {n : Nat} {octets : List UInt8} {b : UInt8}
    (spelled : Spelled n octets) (mem : b ∈ octets) (ascii : b.toNat < 0x80) :
    octets = [b] ∧ n = b.toNat := by
  cases spelled with
  | one lead code =>
      rw [List.mem_singleton] at mem
      subst mem
      exact ⟨rfl, code⟩
  | two lead second code =>
      simp only [IsTail, List.mem_cons, List.not_mem_nil, or_false] at *
      rcases mem with rfl | rfl <;> omega
  | three lead second low high third code =>
      simp only [IsTail, List.mem_cons, List.not_mem_nil, or_false] at *
      rcases mem with rfl | rfl | rfl <;> omega
  | four lead second low high third fourth code =>
      simp only [IsTail, List.mem_cons, List.not_mem_nil, or_false] at *
      rcases mem with rfl | rfl | rfl | rfl <;> omega

variable {b : UInt8} {c : Char} {s : List Char}

theorem eq_of_mem_utf8EncodeChar (mem : b ∈ String.utf8EncodeChar c) (ascii : b.toNat < 0x80) :
    String.utf8EncodeChar c = [b] ∧ c = Char.ofNat b.toNat := by
  obtain ⟨octets, code⟩ := (spelled_utf8EncodeChar c).ascii_of_mem mem ascii
  exact ⟨octets, by rw [← code, Char.ofNat_toNat]⟩

theorem mem_of_mem_encode (mem : b ∈ encode s) (ascii : b.toNat < 0x80) :
    Char.ofNat b.toNat ∈ s := by
  obtain ⟨c, member, inside⟩ := List.mem_flatMap.mp mem
  rwa [← (eq_of_mem_utf8EncodeChar inside ascii).2]

theorem getLast?_of_getLast?_encode (last : (encode s).getLast? = some b) (ascii : b.toNat < 0x80) :
    s.getLast? = some (Char.ofNat b.toNat) := by
  induction s using List.reverseRecOn with
  | nil => cases last
  | append_singleton s c _ =>
      have nonempty : String.utf8EncodeChar c ≠ [] := (spelled_utf8EncodeChar c).ne_nil
      have inside : (String.utf8EncodeChar c).getLast? = some b := by
        rw [← last, encode_append, encode_cons, encode_nil, List.append_nil,
          List.getLast?_append_of_ne_nil _ nonempty]
      rw [List.getLast?_concat, (eq_of_mem_utf8EncodeChar (List.mem_of_getLast? inside) ascii).2]

theorem encode_lineFeed_cons (s : List Char) : encode ('\n' :: s) = 10 :: encode s := rfl

theorem encode_carriageReturn_cons (s : List Char) : encode ('\r' :: s) = 13 :: encode s := rfl

/-- The octets of a text are broken where the text is. -/
theorem Lined.encode {lines : List (List Char)} (lined : Lined '\n' '\r' s lines) :
    Lined 10 13 (encode s) (lines.map Text.encode) := by
  have unbroken {line : List Char} (without : '\n' ∉ line) : 10 ∉ Text.encode line :=
    fun mem => without (mem_of_mem_encode mem (by decide))
  induction lined with
  | nil => exact .nil
  | @last line without nonempty =>
      apply Lined.last (unbroken without)
      obtain ⟨c, rest, rfl⟩ := List.exists_cons_of_ne_nil nonempty
      rw [encode_cons]
      exact List.append_ne_nil_of_left_ne_nil (spelled_utf8EncodeChar c).ne_nil _
  | @lineFeed line rest lines without bare later ih =>
      rw [encode_append, encode_lineFeed_cons, List.map_cons]
      apply Lined.lineFeed (unbroken without) _ ih
      intro last
      exact bare (getLast?_of_getLast?_encode last (by decide))
  | @both line rest lines without later ih =>
      rw [encode_append, encode_carriageReturn_cons, encode_lineFeed_cons, List.map_cons]
      exact Lined.both (unbroken without) ih

end BindStream.Text
