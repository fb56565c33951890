import Mathlib
import BindStream.Tool.Input
import BindStream.Proofs.Text.Lines

namespace BindStream

open Text

/-! Statements from a file and from a feed: the same octets give the same statements. -/

variable {octets : List UInt8} {text : List Char}

/-- The lines of a text, and that it has no others. -/
def LinesOf (text : List Char) (lines : List (List Char)) : Prop :=
  ∀ other, Lined '\n' '\r' text other ↔ other = lines

/-- The lines in which there is more than white space. -/
def filledLines (lines : List (List Char)) : List String :=
  (lines.filter fun line => line.any fun c => !isBlank c).map String.ofList

theorem statementLines_eq (lines : List (List Char)) : statementLines lines = filledLines lines := by
  simp only [statementLines, filledLines, List.not_all_eq_any_not]

theorem linesOf_textLines (text : List Char) : LinesOf text (textLines text) :=
  fun _ => lined_iff (by decide)

theorem octetLines_encode (text : List Char) :
    octetLines (encode text) = (textLines text).map encode := by
  have lined : Lined '\n' '\r' text (textLines text) := (lined_iff (by decide)).mpr rfl
  exact lined.encode.toList_cut (by decide)

/-! Decoding line by line decodes the whole. -/

@[simp] theorem decodeLines_encode (lines : List (List Char)) :
    decodeLines (lines.map encode) = (lines, true) := by
  induction lines with
  | nil => rfl
  | cons line lines ih => simp [decodeLines, decode_encode, ih]

theorem exists_of_decodeLines_cons {line : List UInt8} {rest : List (List UInt8)}
    {texts : List (List Char)} (complete : decodeLines (line :: rest) = (texts, true)) :
    ∃ text later, line = encode text ∧ decodeLines rest = (later, true) := by
  rw [decodeLines] at complete
  cases decoded : decode line with
  | none => simp [decoded] at complete
  | some text =>
      simp only [decoded, Prod.mk.injEq] at complete
      exact ⟨text, (decodeLines rest).1, decode_eq_some_iff.mp decoded, Prod.ext rfl complete.2⟩

theorem exists_encode_of_lined {lines : List (List UInt8)} {texts : List (List Char)}
    (lined : Lined 10 13 octets lines) (complete : decodeLines lines = (texts, true)) :
    ∃ text, octets = encode text := by
  induction lined generalizing texts with
  | nil => exact ⟨[], rfl⟩
  | last unbroken nonempty =>
      obtain ⟨text, _, spelled, _⟩ := exists_of_decodeLines_cons complete
      exact ⟨text, spelled⟩
  | lineFeed unbroken bare later ih =>
      obtain ⟨text, _, rfl, rest⟩ := exists_of_decodeLines_cons complete
      obtain ⟨after, rfl⟩ := ih rest
      exact ⟨text ++ '\n' :: after, by rw [encode_append, encode_lineFeed_cons]⟩
  | both unbroken later ih =>
      obtain ⟨text, _, rfl, rest⟩ := exists_of_decodeLines_cons complete
      obtain ⟨after, rfl⟩ := ih rest
      exact ⟨text ++ '\r' :: '\n' :: after, by
        rw [encode_append, encode_carriageReturn_cons, encode_lineFeed_cons]⟩

theorem exists_encode_of_decodeLines {texts : List (List Char)}
    (complete : decodeLines (octetLines octets) = (texts, true)) : ∃ text, octets = encode text :=
  exists_encode_of_lined ((lined_iff (by decide)).mpr rfl) complete

/-! What each source yields. -/

theorem feed_statements_encode (text : List Char) :
    Feed.statements ⟨encode text, none⟩ = .ok (filledLines (textLines text)) := by
  simp [Feed.statements, Feed.lines, octetLines_encode, statementLines_eq]

theorem feed_statements_of_invalid (invalid : ∀ text, octets ≠ encode text) :
    Feed.statements ⟨octets, none⟩ = .error (.device .invalidText) := by
  rcases decoded : decodeLines (octetLines octets) with ⟨texts, complete⟩
  cases complete with
  | true =>
      obtain ⟨text, spelled⟩ := exists_encode_of_decodeLines decoded
      exact absurd spelled (invalid text)
  | false => simp [Feed.statements, Feed.lines, decoded]

variable {files : Files} {path : String}

theorem file_statements_encode (stored : files.lookup path = some (encode text)) :
    files.statements path = .ok (filledLines (textLines text)) := by
  simp [Files.statements, stored, decode_encode, statementLines_eq]

theorem file_statements_of_invalid (stored : files.lookup path = some octets)
    (invalid : ∀ text, octets ≠ encode text) :
    files.statements path = .error (.unreadableFile path .invalidText) := by
  cases decoded : decode octets with
  | none => simp [Files.statements, stored, decoded]
  | some text => exact absurd (decode_eq_some_iff.mp decoded) (invalid text)

/-- Octets give the same statements from a file as from a feed: the lines of their text in which
there is more than white space. Both sources fail on octets that are no text, and on no others. -/
theorem readStatements_file_feed (octets : List UInt8) (files others : Files) (path : String)
    (feed : Feed) (stored : files.lookup path = some octets) :
    (∀ text, octets = encode text → ∃ lines, LinesOf text lines ∧
      readStatements files [] (some path) feed = .ok (filledLines lines) ∧
      readStatements others [] none ⟨octets, none⟩ = .ok (filledLines lines)) ∧
    ((∀ text, octets ≠ encode text) →
      readStatements files [] (some path) feed = .error (.unreadableFile path .invalidText) ∧
      readStatements others [] none ⟨octets, none⟩ = .error (.device .invalidText)) := by
  constructor
  · intro text spelled
    subst spelled
    exact ⟨textLines text, linesOf_textLines text, file_statements_encode stored,
      feed_statements_encode text⟩
  · intro invalid
    exact ⟨file_statements_of_invalid stored invalid, feed_statements_of_invalid invalid⟩

theorem readStatements_file_feed_mixed_ends :
    let text := "where a = ?\r\n \nb = ?\r".toList
    let files : Files := [("batch.sql", encode text)]
    let broken : Files := [("batch.sql", [0x61, 0x0A, 0x20, 0xFF])]
    files.lookup "batch.sql" = some (encode text) ∧
    LinesOf text ["where a = ?".toList, [' '], "b = ?\r".toList] ∧
    readStatements files [] (some "batch.sql") ⟨[], none⟩ = .ok ["where a = ?", "b = ?\r"] ∧
    readStatements [] [] none ⟨encode text, none⟩ = .ok ["where a = ?", "b = ?\r"] ∧
    broken.lookup "batch.sql" = some [0x61, 0x0A, 0x20, 0xFF] ∧
    readStatements broken [] (some "batch.sql") ⟨[], none⟩ =
      .error (.unreadableFile "batch.sql" .invalidText) ∧
    readStatements [] [] none ⟨[0x61, 0x0A, 0x20, 0xFF], none⟩ = .error (.device .invalidText) := by
  intro text files broken
  have stored : files.lookup "batch.sql" = some (encode text) := by decide
  have storedBroken : broken.lookup "batch.sql" = some [0x61, 0x0A, 0x20, 0xFF] := by decide
  obtain ⟨lines, linesOf, file, feed⟩ :=
    (readStatements_file_feed (encode text) files [] "batch.sql" ⟨[], none⟩ stored).1 text rfl
  have cut : textLines text = ["where a = ?".toList, [' '], "b = ?\r".toList] := by decide
  have lined : Lined '\n' '\r' text (textLines text) := (lined_iff (by decide)).mpr rfl
  have lines_eq : lines = ["where a = ?".toList, [' '], "b = ?\r".toList] := by
    rw [← (linesOf _).mp lined, cut]
  have filled : filledLines lines = ["where a = ?", "b = ?\r"] := by
    rw [lines_eq]
    cbv
  have invalid (other : List Char) : [0x61, 0x0A, 0x20, 0xFF] ≠ encode other := by
    intro spelled
    have decoded := decode_eq_some_iff.mpr spelled
    cases decoded
  obtain ⟨brokenFile, brokenFeed⟩ :=
    (readStatements_file_feed _ broken [] "batch.sql" ⟨[], none⟩ storedBroken).2 invalid
  exact ⟨stored, lines_eq ▸ linesOf, filled ▸ file, filled ▸ feed, storedBroken, brokenFile,
    brokenFeed⟩

end BindStream
