import BindStream.Channel.Cursor

namespace BindStream

/-! How a channel and those who use it are displayed. -/

def displayFields (name : String) (fields : List (String × String)) : String :=
  let texts := fields.map fun (field, value) => field ++ ": " ++ value
  name ++ " \x7b " ++ ", ".intercalate texts ++ " \x7d"

def displayFlag (flag : Bool) : String := if flag then "true" else "false"

def Capacity.display (capacity : Capacity) : String :=
  match capacity.rows? with
  | none => "None"
  | some rows => "Some(" ++ toString rows ++ ")"

def ChannelError.display : ChannelError → String
  | cancelled => "Cancelled"
  | timedOut => "TimedOut"

namespace Channel

variable {ρ : Type}

def display (channel : Channel ρ) : String :=
  displayFields "ResultChannel" [
    ("capacity", channel.capacity.display),
    ("size", toString channel.queue.length),
    ("cancelled", displayFlag channel.cancelled)]

def displayHandle (channel : Channel ρ) : String :=
  displayFields "CancelHandle" [("cancelled", displayFlag channel.cancelled)]

def displayCursor (channel : Channel ρ) (cursor : Cursor ρ) : String :=
  displayFields "Cursor" [
    ("channel", channel.display),
    ("buffered", displayFlag cursor.isBuffered)]

end Channel

/-- Why a row was refused. -/
def ChannelError.refusal (cause : ChannelError) : String := "Row rejected: " ++ cause.message

def ChannelError.displayRefusal (cause : ChannelError) : String :=
  "PutError \x7b kind: " ++ cause.display ++ ", .. \x7d"

end BindStream
