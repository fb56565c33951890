import BindStream.Channel.Basic
import BindStream.Tool.Arguments
import BindStream.Tool.Pump
import BindStream.Tool.Report

namespace BindStream

/-! The commands of the inspection tool. -/

inductive Command
  /-- Resolves the column bound to each marker. -/
  | parse (statements : List String) (file : Option String) (json : Bool)
  /-- Counts markers outside literals and comments. -/
  | count (statements : List String) (file : Option String)
  /-- Pumps lines through a channel, at most `limit` of them. -/
  | stream (capacity : Nat) (limit : Option Nat)
  deriving DecidableEq, Repr

/-- A command with the settings that all commands share. -/
structure Invocation where
  verbose : Bool
  command : Command
  deriving DecidableEq, Repr

namespace Command

def verboseFlag : Flag := ⟨some 'v', "verbose", .switch .verbose⟩

def helpFlag : Flag := ⟨some 'h', "help", .help⟩

def versionFlag : Flag := ⟨some 'V', "version", .version⟩

def fileFlag : Flag := ⟨some 'f', "file", .field .file⟩

def jsonFlag : Flag := ⟨none, "json", .switch .json⟩

def capacityFlag : Flag := ⟨some 'c', "capacity", .field .capacity⟩

def limitFlag : Flag := ⟨some 'l', "limit", .field .limit⟩

def topGrammar : Grammar := ⟨[verboseFlag, helpFlag, versionFlag], false⟩

def parseGrammar : Grammar := ⟨[fileFlag, jsonFlag, verboseFlag, helpFlag], true⟩

def countGrammar : Grammar := ⟨[fileFlag, verboseFlag, helpFlag], true⟩

def streamGrammar : Grammar := ⟨[capacityFlag, limitFlag, verboseFlag, helpFlag], false⟩

/-- The number of rows that a channel holds unless told otherwise. -/
def standardCapacity : Nat := 64

/-- The capacity of a stream: the one given, or else that of the environment. -/
def capacityOf (given : Option Nat) (environment : Option String) : Except Usage Nat :=
  match given, environment with
  | some n, _ => .ok n
  | none, none => .ok standardCapacity
  | none, some text =>
    match readCount text with
    | some n => .ok n
    | none => .error .valueValidation

/-- A command by name, with its arguments. -/
def named? (environment : Option String) (verbose : Bool) (name : String) (rest : List String) :
    Option (Except Usage Invocation) :=
  let read (grammar : Grammar) (command : Arguments → Except Usage Command) :
      Except Usage Invocation := do
    let arguments ← Parsing.start.read grammar false rest
    return ⟨verbose || arguments.has .verbose, ← command arguments⟩
  match name with
  | "parse" => read parseGrammar fun a => .ok (.parse a.words a.file (a.has .json))
  | "count" => read countGrammar fun a => .ok (.count a.words a.file)
  | "stream" => read streamGrammar fun a => do
    return .stream (← capacityOf a.capacity environment) a.limit
  | _ => none

def names : List String := ["parse", "count", "stream", "help"]

/-- Help is for a command or for the tool; commands have no commands of their own. -/
def helpOn : List String → Usage
  | [] => .displayHelp
  | [name] => if names.contains name then .displayHelp else .invalidSubcommand
  | _ => .invalidSubcommand

def read (environment : Option String) (parsing : Parsing) (escaped : Bool) :
    List String → Except Usage Invocation
  | [] => .error (if parsing.arguments.switches.isEmpty then .displayHelpOnMissing
      else .missingSubcommand)
  | text :: rest =>
    if escaped then
      .error (if names.contains text then .unknownArgument else .invalidSubcommand)
    else if text == "help" then .error (helpOn rest)
    else
      match named? environment (parsing.arguments.has .verbose) text rest with
      | some invocation => invocation
      | none =>
        match Form.of text.toList with
        | .escape => read environment parsing true rest
        | .long name attached => do
          read environment (← parsing.long topGrammar name attached) false rest
        | .cluster flags => do
          read environment (← parsing.cluster topGrammar flags) false rest
        | .plain => .error .invalidSubcommand

/-- The statements of a command and what came of them, written to the output. -/
def run (files : Files) (feed : Feed) (output : Output) (command : Command) :
    Output × Option ToolError :=
  match command with
  | parse given file json =>
    match readStatements files given file feed with
    | .error e => (output, some e)
    | .ok texts =>
      let reports := texts.map StatementReport.ofText
      let write := if json then StatementReport.writeJson else StatementReport.writeText
      match write reports output with
      | (written, some e) => (written, some e)
      | (written, none) =>
        match reports.countP StatementReport.hasFailed with
        | 0 => (written, none)
        | failed => (written, some (.invalidStatements failed))
  | count given file =>
    match readStatements files given file feed with
    | .error e => (output, some e)
    | .ok texts => StatementReport.writeCounts texts output
  | stream capacity limit =>
    match pump feed output capacity limit with
    | (written, .ok _) => (written, none)
    | (written, .error e) => (written, some e)

end Command

/-- The command that a command line asks for. -/
def Invocation.ofArguments (environment : Option String) (arguments : List String) :
    Except Usage Invocation :=
  Command.read environment .start false arguments

end BindStream
