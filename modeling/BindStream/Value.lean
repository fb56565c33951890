import BindStream.Decimal.Binary64

namespace BindStream

/-! Values of markers and of result rows. -/

inductive Value
  | null
  | bool (b : Bool)
  | int (n : Int64)
  | float (x : Binary64)
  | text (s : String)
  | blob (octets : List UInt8)
  deriving DecidableEq, Repr

namespace Value

def typeName : Value → String
  | null => "NULL"
  | bool _ => "BOOLEAN"
  | int _ => "INTEGER"
  | float _ => "FLOAT"
  | text _ => "TEXT"
  | blob _ => "BLOB"

def isNull : Value → Bool
  | null => true
  | _ => false

/-- Equality of values; floats are compared as numbers. -/
def same : Value → Value → Bool
  | float x, float y => x.sameNumber y
  | v, w => v == w

def hexOctet (octet : UInt8) : List Char :=
  [Nat.digitChar (octet.toNat / 16), Nat.digitChar (octet.toNat % 16)]

def display : Value → String
  | null => "NULL"
  | bool b => if b then "true" else "false"
  | int n => toString n.toInt
  | float x => x.display
  | text s => s
  | blob octets =>
    "X'" ++ String.ofList ((octets.flatMap hexOctet).map Char.toUpper) ++ "'"

end Value

/-- Types whose elements can be bound. -/
class ToValue (α : Type) where
  toValue : α → Value

export ToValue (toValue)

instance : ToValue Value := ⟨id⟩

instance : ToValue Bool := ⟨.bool⟩

instance : ToValue Int64 := ⟨.int⟩

instance : ToValue Int32 := ⟨fun n => .int n.toInt64⟩

instance : ToValue UInt32 := ⟨fun n => .int (.ofNat n.toNat)⟩

instance : ToValue Binary64 := ⟨.float⟩

instance : ToValue String := ⟨.text⟩

instance : ToValue (List UInt8) := ⟨.blob⟩

instance {α : Type} [ToValue α] : ToValue (Option α) := ⟨fun x => x.elim .null toValue⟩

structure Row where
  values : List Value
  deriving DecidableEq, Repr

namespace Row

instance : Inhabited Row := ⟨⟨[]⟩⟩

def length (row : Row) : Nat := row.values.length

def isEmpty (row : Row) : Bool := row.values.isEmpty

def get? (row : Row) (index : Nat) : Option Value := row.values[index]?

def display (row : Row) : String := "\t".intercalate (row.values.map Value.display)

def same (row other : Row) : Bool :=
  row.length == other.length && (row.values.zip other.values).all fun (v, w) => v.same w

end Row

end BindStream
