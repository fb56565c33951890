namespace BindStream

/-! The arguments of one command: switches, fields with a value, and words. -/

/-- Why no command is run. Requests for help and for the version count among the reasons. -/
inductive Usage
  | unknownArgument
  | invalidValue
  | valueValidation
  | tooManyValues
  | argumentConflict
  | invalidSubcommand
  | missingSubcommand
  | displayHelp
  | displayVersion
  | displayHelpOnMissing
  deriving DecidableEq, Repr

inductive Switch
  | verbose
  | json
  deriving DecidableEq, Repr

inductive Field
  | file
  | capacity
  | limit
  deriving DecidableEq, Repr

inductive Effect
  | switch (switch : Switch)
  | field (field : Field)
  | help
  | version
  deriving DecidableEq, Repr

structure Flag where
  short : Option Char
  long : String
  effect : Effect
  deriving DecidableEq, Repr

/-- The flags that a command knows, and whether it takes words. -/
structure Grammar where
  flags : List Flag
  takesWords : Bool
  deriving DecidableEq, Repr

namespace Grammar

def long? (grammar : Grammar) (name : List Char) : Option Effect :=
  (grammar.flags.find? (·.long.toList == name)).map Flag.effect

def short? (grammar : Grammar) (c : Char) : Option Effect :=
  (grammar.flags.find? (·.short == some c)).map Flag.effect

end Grammar

structure Arguments where
  switches : List Switch
  file : Option String
  capacity : Option Nat
  limit : Option Nat
  words : List String
  deriving DecidableEq, Repr

/-- The numbers that fit a machine word of 64 bits, with an optional plus sign. -/
def readCount (text : String) : Option Nat :=
  let digits := match text.toList with
    | '+' :: rest => rest
    | chars => chars
  if digits.isEmpty || !digits.all Char.isDigit then none
  else
    let n := digits.foldl (fun n c => 10 * n + (c.toNat - '0'.toNat)) 0
    if n < Nat.pow 2 64 then some n else none

namespace Arguments

def empty : Arguments := ⟨[], none, none, none, []⟩

def has (arguments : Arguments) (switch : Switch) : Bool := arguments.switches.contains switch

def turnOn (arguments : Arguments) (switch : Switch) : Except Usage Arguments :=
  if arguments.has switch then .error .argumentConflict
  else .ok { arguments with switches := switch :: arguments.switches }

/-- Gives a field its value; that it has one already is found before a fault of the value. -/
def setField (arguments : Arguments) (field : Field) (text : String) : Except Usage Arguments :=
  match field with
  | .file =>
    if arguments.file.isSome then .error .argumentConflict
    else if text.isEmpty then .error .invalidValue
    else .ok { arguments with file := some text }
  | .capacity =>
    if arguments.capacity.isSome then .error .argumentConflict
    else
      match readCount text with
      | some n => .ok { arguments with capacity := some n }
      | none => .error .valueValidation
  | .limit =>
    if arguments.limit.isSome then .error .argumentConflict
    else
      match readCount text with
      | some n => .ok { arguments with limit := some n }
      | none => .error .valueValidation

end Arguments

/-- A field that has been named and is not yet set, with its value if that has been read. -/
structure Pending where
  field : Field
  value : Option String
  deriving DecidableEq, Repr

structure Parsing where
  arguments : Arguments
  pending : Option Pending
  deriving DecidableEq, Repr

inductive Form
  /-- Two dashes, behind which all arguments are words. -/
  | escape
  | long (name : List Char) (attached : Option (List Char))
  | cluster (flags : List Char)
  | plain
  deriving DecidableEq, Repr

def splitAtEquals : List Char → List Char × Option (List Char)
  | [] => ([], none)
  | c :: rest =>
    if c = '=' then ([], some rest)
    else
      let (name, attached) := splitAtEquals rest
      (c :: name, attached)

def Form.of (argument : List Char) : Form :=
  match argument with
  | ['-', '-'] => escape
  | '-' :: '-' :: rest => long (splitAtEquals rest).1 (splitAtEquals rest).2
  | ['-'] => plain
  | '-' :: flags => cluster flags
  | _ => plain

namespace Parsing

def start : Parsing := ⟨.empty, none⟩

def settle (parsing : Parsing) : Except Usage Parsing :=
  match parsing.pending with
  | none => .ok parsing
  | some ⟨_, none⟩ => .error .invalidValue
  | some ⟨field, some value⟩ => do
    return ⟨← parsing.arguments.setField field value, none⟩

/-- The effect of a flag without a value. -/
def flag (parsing : Parsing) (effect : Effect) : Except Usage Parsing := do
  let settled ← parsing.settle
  match effect with
  | .switch switch => return ⟨← settled.arguments.turnOn switch, none⟩
  | .field field => return ⟨settled.arguments, some ⟨field, none⟩⟩
  | .help => .error .displayHelp
  | .version => .error .displayVersion

def attach (parsing : Parsing) (field : Field) (value : List Char) : Except Usage Parsing := do
  let settled ← parsing.settle
  return ⟨← settled.arguments.setField field (String.ofList value), none⟩

def long (grammar : Grammar) (parsing : Parsing) (name : List Char)
    (attached : Option (List Char)) : Except Usage Parsing :=
  match grammar.long? name, attached with
  | none, _ => .error .unknownArgument
  | some (.field field), some value => parsing.attach field value
  | some _, some _ => .error .tooManyValues
  | some effect, none => parsing.flag effect

/-- Short flags in one argument. The rest of it is the value of the first field among them, with
or without an equals sign between. -/
def cluster (grammar : Grammar) (parsing : Parsing) : List Char → Except Usage Parsing
  | [] => .ok parsing
  | c :: rest =>
    match grammar.short? c, rest with
    | none, _ => .error .unknownArgument
    | some (.field field), [] => parsing.flag (.field field)
    | some (.field field), '=' :: value => parsing.attach field value
    | some (.field field), value => parsing.attach field value
    | some effect, _ => do (← parsing.flag effect).cluster grammar rest

def word (grammar : Grammar) (parsing : Parsing) (text : String) : Except Usage Parsing :=
  if grammar.takesWords then do
    let settled ← parsing.settle
    let arguments := settled.arguments
    return ⟨{ arguments with words := arguments.words ++ [text] }, none⟩
  else .error .unknownArgument

/-- An argument that is no flag: the value of a field that waits for one, or else a word. -/
def plain (grammar : Grammar) (parsing : Parsing) (text : String) : Except Usage Parsing :=
  match parsing.pending with
  | some ⟨field, none⟩ => .ok { parsing with pending := some ⟨field, some text⟩ }
  | _ => parsing.word grammar text

/-- Reads arguments; `escaped` says that all of them are words. -/
def read (grammar : Grammar) (parsing : Parsing) (escaped : Bool) :
    List String → Except Usage Arguments
  | [] => do return (← parsing.settle).arguments
  | text :: rest =>
    if escaped then do (← parsing.word grammar text).read grammar true rest
    else
      match Form.of text.toList with
      | .escape => parsing.read grammar true rest
      | .long name attached => do (← parsing.long grammar name attached).read grammar false rest
      | .cluster flags => do (← parsing.cluster grammar flags).read grammar false rest
      | .plain => do (← parsing.plain grammar text).read grammar false rest

end Parsing

end BindStream
