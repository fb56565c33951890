namespace BindStream

/-! Why the inspection tool fails. -/

inductive DeviceError
  | invalidText
  | missingFile
  | full
  | fault (message : String)
  deriving DecidableEq, Repr

def DeviceError.message : DeviceError → String
  | invalidText => "stream did not contain valid UTF-8"
  | missingFile => "No such file or directory (os error 2)"
  | full => "sink full"
  | fault message => message

inductive ToolError
  | device (cause : DeviceError)
  | unreadableFile (path : String) (cause : DeviceError)
  | serialization (cause : DeviceError)
  | invalidStatements (count : Nat)
  deriving DecidableEq, Repr

def ToolError.message : ToolError → String
  | device cause => "IO error: " ++ cause.message
  | unreadableFile path cause => s!"Failed to read statement file '{path}': {cause.message}"
  | serialization cause => "Serialization error: " ++ cause.message
  | invalidStatements count => s!"{count} statement(s) could not be resolved"

end BindStream
