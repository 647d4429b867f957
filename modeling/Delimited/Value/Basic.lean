import Delimited.Instant
import Delimited.Number.Binary64
import Delimited.Number.Decimal
import Delimited.Value.Foreign

/-!
# Values

A row is dynamic: its fields may hold any value, and the schema decides which ones it accepts.
Besides the kinds that columns have there are the containers that rows and composite columns are
made of, byte strings of three kinds, and values of other classes: sequences, mappings, and those
that are neither. A class that is derived from one of a kind counts as that kind, and the contents
of a value are what it holds, so that a value never holds itself.
-/

namespace Delimited

/-- The kinds of byte string: fixed, changeable, or a view on another's memory. -/
inductive BytesKind where
  /-- Fixed bytes. -/
  | fixed
  /-- Changeable bytes. -/
  | buffer
  /-- A view, which also counts as a sequence of numbers. -/
  | view
  deriving DecidableEq

/-- The kinds of sequence: of fixed length, as rows are, or growing, as arrays are. -/
inductive SequenceKind where
  /-- A tuple. -/
  | tuple
  /-- A list. -/
  | list
  /-- A sequence of another class. -/
  | foreign (f : Foreign)

/-- The kinds of mapping. -/
inductive MappingKind where
  /-- A dictionary. -/
  | dictionary
  /-- A mapping of another class. -/
  | foreign (f : Foreign)

/-- A value of a row, an option or a message. -/
inductive Value where
  /-- No value. -/
  | null
  /-- A truth value. -/
  | bool (b : Bool)
  /-- An integer. -/
  | int (i : Int)
  /-- A floating-point number. -/
  | float (x : Binary64)
  /-- A decimal number. -/
  | decimal (d : Decimal)
  /-- A text. -/
  | text (t : Text)
  /-- A date. -/
  | date (d : Date)
  /-- A time of day, perhaps with an offset from UTC. -/
  | time (t : TimeOfDay) (offset : Option ZoneOffset)
  /-- A date and time, perhaps with an offset from UTC. -/
  | dateTime (t : DateTime) (offset : Option ZoneOffset)
  /-- An instant. -/
  | instant (i : Instant)
  /-- A byte string. -/
  | bytes (kind : BytesKind) (b : List UInt8)
  /-- A sequence. -/
  | sequence (kind : SequenceKind) (items : List Value)
  /-- A mapping, its entries in order. -/
  | mapping (kind : MappingKind) (entries : List (Value × Value))
  /-- A value of another class that is neither a sequence nor a mapping. -/
  | foreign (f : Foreign)

namespace Value

/-- The name of a value's kind, as messages say it. -/
def kindName : Value → String
  | null => "NoneType"
  | bool _ => "bool"
  | int _ => "int"
  | float _ => "float"
  | decimal _ => "Decimal"
  | text _ => "str"
  | date _ => "date"
  | time .. => "time"
  | dateTime .. => "datetime"
  | instant _ => "Instant"
  | bytes .fixed _ => "bytes"
  | bytes .buffer _ => "bytearray"
  | bytes .view _ => "memoryview"
  | sequence .tuple _ => "tuple"
  | sequence .list _ => "list"
  | mapping .dictionary _ => "dict"
  | sequence (.foreign f) _ | mapping (.foreign f) _ | foreign f => f.className

/-- The name of a value's kind with the group that it belongs to, if the kind has one. -/
def qualifiedKindName (v : Value) : String :=
  match v with
  | decimal _ => "decimal.Decimal"
  | date _ => "datetime.date"
  | time .. => "datetime.time"
  | dateTime .. => "datetime.datetime"
  | sequence (.foreign f) _ | mapping (.foreign f) _ | foreign f => f.qualifiedName
  | _ => v.kindName

/-- The bytes as numbers. -/
def ofBytes (b : List UInt8) : List Value := b.map fun x => int x.toNat

/-- The items of a value that can stand for a row or a composite column: a sequence, or a view on
bytes. Texts and other byte strings do not count. -/
def items? : Value → Option (List Value)
  | sequence _ items => some items
  | bytes .view b => some (ofBytes b)
  | _ => none

/-- What a walk through the value visits, if it can be walked through at all: items, characters,
byte numbers, keys. -/
def members? : Value → Option (List Value)
  | sequence _ items => some items
  | bytes _ b => some (ofBytes b)
  | text t => some (t.map fun c => text [c])
  | mapping _ entries => some (entries.map (·.1))
  | _ => none

/-- Does the value count as absent where a choice hangs on it: null, false, zero, empty? -/
def isEmptyOrZero : Value → Bool
  | null => true
  | bool b => !b
  | int i => i == 0
  | float x => x.isZero
  | decimal d => d.isZero
  | text t => t.isEmpty
  | bytes _ b => b.isEmpty
  | sequence _ items => items.isEmpty
  | mapping _ entries => entries.isEmpty
  | date _ | time .. | dateTime .. | instant _ | foreign _ => false

/-- The value of the entry with this text as its key, null if there is none. -/
def lookup (entries : List (Value × Value)) (key : Text) : Value :=
  match entries.find? fun entry => match entry.1 with
    | text t => t == key
    | _ => false with
  | some entry => entry.2
  | none => null

/-- The integer of a value that is one; a truth value counts as zero or one. -/
def integer? : Value → Option Int
  | int i => some i
  | bool b => some (if b then 1 else 0)
  | _ => none

end Value

end Delimited
