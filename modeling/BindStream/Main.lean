import BindStream.Tool.Command

open BindStream

/-! The inspection tool as a program: it reads what a command needs, and writes what comes of it. -/

namespace BindStream.Main

def helpText : String :=
  "Inspect bind markers and stream rows through a result channel\n\n" ++
  "Usage:\n" ++
  "  parse [--json] [-f FILE] [SQL]...   resolve the column bound to each marker\n" ++
  "  count [-f FILE] [SQL]...            count markers outside literals and comments\n" ++
  "  stream [-c CAPACITY] [-l LIMIT]     pump lines through a result channel\n"

def versionText : String := "0.1.0\n"

def usageText : Usage → String
  | .unknownArgument => "unexpected argument"
  | .invalidValue => "a value is required"
  | .valueValidation => "invalid value"
  | .tooManyValues => "unexpected value"
  | .argumentConflict => "an argument cannot be used multiple times"
  | .invalidSubcommand => "unrecognized subcommand"
  | .missingSubcommand => "a subcommand is required"
  | .displayHelp => helpText
  | .displayVersion => versionText
  | .displayHelpOnMissing => helpText

def capacityVariable : String := "BIND_STREAM_CAPACITY"

partial def readAll (stream : IO.FS.Stream) (octets : ByteArray) : IO ByteArray := do
  let chunk ← stream.read 65536
  if chunk.isEmpty then return octets else readAll stream (octets ++ chunk)

def standardFeed : IO Feed := do
  try
    let octets ← readAll (← IO.getStdin) .empty
    return ⟨octets.toList, none⟩
  catch e => return ⟨[], some (toString e)⟩

def filesAt (path : String) : IO Files := do
  try
    let octets ← IO.FS.readBinFile path
    return [(path, octets.toList)]
  catch _ => return []

/-- The files and the feed that a command reads. -/
def sources : Command → IO (Files × Feed)
  | .parse [] none _ => do return ([], ← standardFeed)
  | .count [] none => do return ([], ← standardFeed)
  | .stream _ _ => do return ([], ← standardFeed)
  | .parse [] (some path) _ => do return (← filesAt path, ⟨[], none⟩)
  | .count [] (some path) => do return (← filesAt path, ⟨[], none⟩)
  | _ => return ([], ⟨[], none⟩)

def runCommand (command : Command) : IO UInt32 := do
  let (files, feed) ← sources command
  let (written, failure) := command.run files feed (.empty none)
  IO.print written.text
  match failure with
  | none => return 0
  | some e =>
    IO.eprintln ("Error: " ++ e.message)
    return 1

def refuse : Usage → IO UInt32
  | .displayHelp => do
    IO.print helpText
    return 0
  | .displayVersion => do
    IO.print versionText
    return 0
  | usage => do
    IO.eprintln ("error: " ++ usageText usage)
    return 2

end BindStream.Main

def main (arguments : List String) : IO UInt32 := do
  let environment ← IO.getEnv BindStream.Main.capacityVariable
  match Invocation.ofArguments environment arguments with
  | .ok invocation => BindStream.Main.runCommand invocation.command
  | .error usage => BindStream.Main.refuse usage
