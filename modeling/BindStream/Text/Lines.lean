namespace BindStream.Text

/-! Lines of octets or of characters. -/

/-- A content cut at its line feeds: the lines that one ends, and what follows the last. -/
structure Lines (α : Type) where
  ended : List (List α)
  rest : List α

def Lines.push (x : α) : Lines α → Lines α
  | ⟨[], rest⟩ => ⟨[], x :: rest⟩
  | ⟨line :: ended, rest⟩ => ⟨(x :: line) :: ended, rest⟩

def Lines.cut [DecidableEq α] (lineFeed : α) : List α → Lines α
  | [] => ⟨[], []⟩
  | x :: xs =>
    let lines := cut lineFeed xs
    if x = lineFeed then ⟨[] :: lines.ended, lines.rest⟩ else lines.push x

/-- A line without one carriage return at its end. -/
def stripReturn [DecidableEq α] (carriageReturn : α) (line : List α) : List α :=
  if line.getLast? = some carriageReturn then line.dropLast else line

/-- All lines: a carriage return before a line feed belongs to the line end, one at the end of
the content does not, and an empty rest is no line. -/
def Lines.toList [DecidableEq α] (carriageReturn : α) (lines : Lines α) : List (List α) :=
  lines.ended.map (stripReturn carriageReturn) ++ if lines.rest.isEmpty then [] else [lines.rest]

end BindStream.Text
