import Delimited.Value.Basic
import Delimited.Text.Quoted
import Delimited.Number.Shortest

/-!
# Values in messages

Values have a notation, in which messages show them. It may be missing: integers are bound to the
digit limit there too, notations stand within one another only so deep, and a value of another class
is shown as its class says. How many levels are left depends on where the message is made, and is
given.
-/

namespace Delimited

namespace Value

/-- The decimal texts of numbers, separated by a comma and a blank. -/
def numbersText (ns : List Nat) : Text := Text.join ", " (ns.map Digits.ofNat)

/-- A span of time, its parts named and those of zero left out. -/
def spanText (span : TimeSpan) : Text :=
  let parts : List (Text × Int) :=
    [("days=", span.days), ("seconds=", span.seconds), ("microseconds=", span.microseconds)]
  ("datetime.timedelta(" : Text)
    ++ Text.join ", " ((parts.filter (·.2 ≠ 0)).map fun (name, n) => name ++ Integer.text n)
    ++ (")" : Text)

/-- An offset from UTC. -/
def offsetText (offset : ZoneOffset) : Text :=
  if offset = 0 then "datetime.timezone.utc"
  else ("datetime.timezone(" : Text) ++ spanText (.of 0 0 offset) ++ (")" : Text)

/-- The text of a notation within which so many levels stand, if that many are left. -/
def within (levels needed : Nat) (t : Text) : Except ShowFault Text :=
  if needed ≤ levels then .ok t else .error .tooDeep

/-- The offset of a time as a named part, if it has one. The span of an offset is a notation within
that of the offset. -/
def offsetPart (levels : Nat) (offset : Option ZoneOffset) : Except ShowFault Text :=
  match offset with
  | some offset =>
    within levels (if offset = 0 then 1 else 2) ((", tzinfo=" : Text) ++ offsetText offset)
  | none => .ok []

/-- The parts of a time: hour and minute always, the rest only up to the last that is not zero. -/
def timeParts (t : TimeOfDay) : List Nat :=
  [t.hour, t.minute] ++
    if t.microsecond ≠ 0 then [t.second, t.microsecond]
    else if t.second ≠ 0 then [t.second]
    else []

/-- A byte string in the notation of its kind. A view shows no bytes, only an address, which is left
out. -/
def bytesText (kind : BytesKind) (b : List UInt8) : Text :=
  match kind with
  | .fixed => Quoted.bytes b
  | .buffer => Quoted.buffer b
  | .view => "<memory>"

/-- The shown items of a list. -/
def listText (items : List Text) : Text := ("[" : Text) ++ Text.join ", " items ++ ("]" : Text)

/-- The shown items of a tuple, a lone one followed by a comma. -/
def tupleText : List Text → Text
  | [item] => ("(" : Text) ++ item ++ (",)" : Text)
  | items => ("(" : Text) ++ Text.join ", " items ++ (")" : Text)

/-- The levels that stand within the notation of an instant, whose class makes it of those of its
parts by calls of its own. -/
def instantLevels : Nat := 3

/-- The notation of a value, which takes one of the levels that are left; the notations of what it
holds take the others. -/
def literal (levels : Nat) (v : Value) : Except ShowFault Text :=
  match levels with
  | 0 => .error .tooDeep
  | levels + 1 =>
    match v with
    | null => .ok "None"
    | bool b => .ok (if b then "True" else "False")
    | int i => (Integer.write i).mapError .excess
    | float x => .ok (x.text "nan" "inf")
    | decimal d => .ok (("Decimal('" : Text) ++ d.text ++ ("')" : Text))
    | text t => .ok t.quoted
    | date d =>
      .ok (("datetime.date(" : Text) ++ numbersText [d.year, d.month, d.day] ++ (")" : Text))
    | time t offset => do
      return ("datetime.time(" : Text) ++ numbersText (timeParts t) ++ (← offsetPart levels offset)
        ++ (")" : Text)
    | dateTime t offset => do
      return ("datetime.datetime(" : Text)
        ++ numbersText ([t.date.year, t.date.month, t.date.day] ++ timeParts t.time)
        ++ (← offsetPart levels offset) ++ (")" : Text)
    | instant i => do
      let opening ← within levels instantLevels "Instant(epoch_second="
      let second ← (Integer.write i.second).mapError .excess
      return opening ++ second ++ (", nano=" : Text) ++ Digits.ofNat i.nano ++ (")" : Text)
    | bytes kind b => .ok (bytesText kind b)
    | sequence .tuple items => do return tupleText (← items.mapM (literal levels))
    | sequence .list items => do return listText (← items.mapM (literal levels))
    | mapping .dictionary entries => do
      let shown ← entries.mapM fun (key, v) => do
        let shownKey ← literal levels key
        return shownKey ++ (": " : Text) ++ (← literal levels v)
      return ("\x7b" : Text) ++ Text.join ", " shown ++ ("\x7d" : Text)
    | sequence (.foreign f) _ | mapping (.foreign f) _ | foreign f => f.shown levels

end Value

end Delimited
