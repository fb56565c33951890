import BindStream.Text.Blank
import BindStream.Text.Lines
import BindStream.Text.Utf8
import BindStream.Tool.Error

namespace BindStream

/-! Where statements come from. -/

/-- Octets that are read one after the other, up to a fault of the device if there is one. -/
structure Feed where
  octets : List UInt8
  fault : Option String
  deriving DecidableEq, Repr

abbrev Files := List (String × List UInt8)

namespace Text

def octetLines (octets : List UInt8) : List (List UInt8) := (Lines.cut 10 octets).toList 13

def textLines (s : List Char) : List (List Char) := (Lines.cut '\n' s).toList '\r'

/-- The lines up to the first that is no text, and whether there is none such. -/
def decodeLines : List (List UInt8) → List (List Char) × Bool
  | [] => ([], true)
  | line :: lines =>
    match decode line with
    | none => ([], false)
    | some text =>
      let (texts, complete) := decodeLines lines
      (text :: texts, complete)

end Text

namespace Feed

/-- The lines of a feed up to its first failure, and the failure. A device that fails loses the
line that it was reading. -/
def lines (feed : Feed) : List (List Char) × Option DeviceError :=
  match feed.fault with
  | none =>
    match Text.decodeLines (Text.octetLines feed.octets) with
    | (texts, true) => (texts, none)
    | (texts, false) => (texts, some .invalidText)
  | some message =>
    let ended := (Text.Lines.cut 10 feed.octets).ended.map (Text.stripReturn 13)
    match Text.decodeLines ended with
    | (texts, true) => (texts, some (.fault message))
    | (texts, false) => (texts, some .invalidText)

end Feed

def statementLines (lines : List (List Char)) : List String :=
  (lines.filter fun line => !line.all Text.isBlank).map String.ofList

/-- The statements in a file, one on each line. -/
def Files.statements (files : Files) (path : String) : Except ToolError (List String) :=
  match files.lookup path with
  | none => .error (.unreadableFile path .missingFile)
  | some octets =>
    match Text.decode octets with
    | none => .error (.unreadableFile path .invalidText)
    | some text => .ok (statementLines (Text.textLines text))

/-- The statements in a feed, one on each line. -/
def Feed.statements (feed : Feed) : Except ToolError (List String) :=
  match feed.lines with
  | (lines, none) => .ok (statementLines lines)
  | (_, some cause) => .error (.device cause)

/-- The statements to look at: the given ones, or else those of the file, or else those of the
feed. -/
def readStatements (files : Files) (given : List String) (path : Option String) (feed : Feed) :
    Except ToolError (List String) :=
  if given.isEmpty then
    match path with
    | some path => files.statements path
    | none => feed.statements
  else .ok given

end BindStream
