import BindStream.Resolver
import BindStream.Tool.Error
import BindStream.Tool.Output

namespace BindStream

/-! What became of each statement, as text, as JSON and as counts. -/

structure StatementReport where
  text : String
  count : Nat
  result : Except ResolveError (List Parameter)

namespace StatementReport

def ofText (text : String) : StatementReport := ⟨text, countMarkers text, resolve text⟩

def parameters (report : StatementReport) : List Parameter :=
  match report.result with
  | .ok parameters => parameters
  | .error _ => []

def error? (report : StatementReport) : Option ResolveError :=
  match report.result with
  | .ok _ => none
  | .error e => some e

def hasFailed (report : StatementReport) : Bool := report.error?.isSome

def parameterLine (parameter : Parameter) : String :=
  s!"  {parameter.display} (offset {parameter.span.start})\n"

def render (report : StatementReport) : String :=
  let details := match report.result with
    | .error e => s!"  error: {e.message}\n"
    | .ok [] => "  (no parameters)\n"
    | .ok parameters => String.join (parameters.map parameterLine)
  report.text ++ "\n" ++ details

def countLine (text : String) : String := s!"{countMarkers text}\t{text}\n"

end StatementReport

namespace Json

/-- The digits of a control character, as a JSON string writes it. -/
def controlEscape (n : Nat) : List Char :=
  ['\\', 'u', '0', '0', Nat.digitChar (n / 16), Nat.digitChar (n % 16)]

def escape (c : Char) : List Char :=
  match c with
  | '"' => ['\\', '"']
  | '\\' => ['\\', '\\']
  | '\n' => ['\\', 'n']
  | '\r' => ['\\', 'r']
  | '\t' => ['\\', 't']
  | c =>
    if c.toNat = 8 then ['\\', 'b']
    else if c.toNat = 12 then ['\\', 'f']
    else if c.toNat < 32 then controlEscape c.toNat
    else [c]

def quote (s : String) : String := "\"" ++ String.ofList (s.toList.flatMap escape) ++ "\""

def indent (depth : Nat) : String := "".pushn ' ' (2 * depth)

/-- Items between brackets, each on a line of its own, two blanks deeper than the brackets. -/
def block (left right : String) (depth : Nat) (items : List String) : String :=
  if items.isEmpty then left ++ right
  else
    let lines := items.map fun item => "\n" ++ indent (depth + 1) ++ item
    left ++ ",".intercalate lines ++ "\n" ++ indent depth ++ right

def array (depth : Nat) (items : List String) : String := block "[" "]" depth items

def object (depth : Nat) (fields : List (String × String)) : String :=
  block "\x7b" "\x7d" depth (fields.map fun (name, value) => quote name ++ ": " ++ value)

end Json

namespace StatementReport

def parameterObject (depth : Nat) (parameter : Parameter) : String :=
  Json.object depth [
    ("ordinal", toString parameter.ordinal),
    ("column", Json.quote parameter.column),
    ("offset", toString parameter.span.start)]

def jsonObject (depth : Nat) (report : StatementReport) : String :=
  let parameters := report.parameters.map (parameterObject (depth + 2))
  let error := report.error?.toList.map fun e => ("error", Json.quote e.message)
  Json.object depth ([
    ("sql", Json.quote report.text),
    ("count", toString report.count),
    ("parameters", Json.array (depth + 1) parameters)] ++ error)

def writeText (reports : List StatementReport) (output : Output) : Output × Option ToolError :=
  match output.write (String.join (reports.map render)) with
  | (written, true) => (written, none)
  | (written, false) => (written, some (.device .full))

def writeJson (reports : List StatementReport) (output : Output) : Output × Option ToolError :=
  match output.write (Json.array 0 (reports.map (jsonObject 1))) with
  | (written, false) => (written, some (.serialization .full))
  | (body, true) =>
    match body.write "\n" with
    | (written, true) => (written, none)
    | (written, false) => (written, some (.device .full))

def writeCounts (texts : List String) (output : Output) : Output × Option ToolError :=
  match output.write (String.join (texts.map countLine)) with
  | (written, true) => (written, none)
  | (written, false) => (written, some (.device .full))

end StatementReport

end BindStream
