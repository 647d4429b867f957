import Delimited.Dialect.Settings
import Delimited.Field.Decode
import Delimited.Field.Quoting
import Delimited.Value.Sum

/-!
# Splitting and quoting by unchecked settings

A single text can be split, decoded or quoted by marks and settings that nobody has checked. They
may be ambiguous, and any value may stand where a character is wanted. Only a text of length one
matches a character; a longer quote still opens the fields that start with it and is written
around those that need it. A value that is no text does no harm until something is done to it that
only texts allow.
-/

namespace Delimited

/-- The character that a value is, if it is a text of length one. -/
def Value.character? : Value → Option CodePoint
  | text [c] => some c
  | _ => none

/-- The characters of a text; other values have none. -/
def Value.characters : Value → Text
  | text t => t
  | _ => []

/-- Why unchecked settings cannot be applied to a text. -/
inductive LooseFault where
  /-- The line cannot be split. -/
  | split (f : SplitFault)
  /-- The marks cannot be joined to one text. -/
  | operands (e : OperandError)
  /-- No text starts with a value of that kind. -/
  | quoteKind (given : String)
  /-- Among several quotes there is a value of that kind, with which no text starts. -/
  | quotesKind (given : String)
  /-- Several quotes can open a field, but cannot close it. -/
  | severalQuotes
  /-- No text holds a value of that kind. -/
  | escapeKind (given : String)
  /-- A value of that kind cannot be written around a text. -/
  | writtenQuote (given : String)
  /-- The marks cannot be taken out of a value of that kind. -/
  | notIterable (given : String)
  /-- A value of that kind has no code point. -/
  | noCodePoint (given : String)
  /-- A text of that length has no single code point. -/
  | severalCodePoints (length : Nat)

/-- The wording of a loose fault; an overflow has none. -/
def LooseFault.message? : LooseFault → Option Text
  | split f => some f.message
  | operands e => e.message?
  | quoteKind given =>
    some (("startswith first arg must be str or a tuple of str, not " : Text)
      ++ Text.ofString given)
  | quotesKind given =>
    some (("tuple for startswith must only contain str, not " : Text) ++ Text.ofString given)
  | severalQuotes => some "must be str, not tuple"
  | escapeKind given =>
    some (("'in <string>' requires string as left operand, not " : Text) ++ Text.ofString given)
  | writtenQuote given =>
    some (("sequence item 0: expected str instance, " : Text) ++ Text.ofString given
      ++ (" found" : Text))
  | notIterable given =>
    some (("'" : Text) ++ Text.ofString given ++ ("' object is not iterable" : Text))
  | noCodePoint given =>
    some (("ord() expected string of length 1, but " : Text) ++ Text.ofString given
      ++ (" found" : Text))
  | severalCodePoints length =>
    some (("ord() expected a character, but string of length " : Text) ++ Digits.ofNat length
      ++ (" found" : Text))

/-- The class of a loose fault. -/
def LooseFault.errorClass : LooseFault → ErrorClass
  | split f => f.failure.errorClass
  | operands e => e.errorClass
  | quoteKind _ | quotesKind _ | severalQuotes | escapeKind _ | writtenQuote _ | notIterable _
  | noCodePoint _ | severalCodePoints _ => .type

/-- The failure to apply unchecked settings. -/
def LooseFault.failure (f : LooseFault) : Failure := ⟨f.errorClass, f.message?, none⟩

/-- Marks that have not been checked. -/
structure LooseMarks where
  /-- Separates fields. -/
  delimiter : Text
  /-- Opens and closes a quoted span; null for none. -/
  quote : Value
  /-- Protects the character behind it; null for none. -/
  escape : Value

namespace LooseMarks

/-- The marks that are characters. -/
def characters (m : LooseMarks) : Marks :=
  ⟨(Value.text m.delimiter).character?, m.quote.character?, m.escape.character?⟩

/-- The raw fields of a line. Marks that are no characters do not split it. -/
def rawFields (m : LooseMarks) (record : Bool) (line : Text) :
    Except LooseFault (List Text) :=
  (m.characters.rawFields record line).mapError .split

/-- Does a raw field start with one of several quotes? Those behind the first such are not looked
at. -/
def startsWithAny (raw : Text) : List Value → Except LooseFault Bool
  | [] => .ok false
  | .text q :: rest => if q.isPrefixOf raw then .ok true else startsWithAny raw rest
  | v :: _ => .error (.quotesKind v.qualifiedKindName)

/-- Does a raw field start with a quote? -/
def isOpened (m : LooseMarks) (raw : Text) : Except LooseFault Bool :=
  match m.quote with
  | .null => .ok false
  | .text q => .ok (q.isPrefixOf raw)
  | .sequence .tuple quotes => startsWithAny raw quotes
  | v => .error (.quoteKind v.qualifiedKindName)

/-- What a raw field that starts with a quote stands for. -/
def decodeOpened (m : LooseMarks) (raw : Text) : Except LooseFault Text :=
  match m.quote with
  | .text q =>
    -- One character is taken off the front, however long the quote is.
    match Marks.beforeLast? q raw with
    | some (_ :: inner) => .ok (m.characters.decodeQuoted inner)
    | _ => .error (.split .unterminatedField)
  | _ => .error .severalQuotes

/-- What a raw field that starts with no quote stands for. -/
def decodeBare (m : LooseMarks) (raw : Text) : Except LooseFault Text :=
  match m.escape with
  | .null | .text _ => .ok (m.characters.decodeBare raw)
  | v => .error (.escapeKind v.qualifiedKindName)

/-- What a raw field stands for. -/
def decode (m : LooseMarks) (raw : Text) : Except LooseFault Text := do
  if ← m.isOpened raw then m.decodeOpened raw else m.decodeBare raw

/-- The fields of a line, decoded. -/
def split (m : LooseMarks) (record : Bool) (line : Text) : Except LooseFault (List Text) := do
  (← m.rawFields record line).mapM m.decode

/-- The text between quotes, with the quotes and escapes in it doubled. -/
def enclose (m : LooseMarks) (t : Text) : Except LooseFault Text :=
  match m.quote with
  | .text q =>
    .ok (q ++ Quoting.doubled m.characters.quote m.characters.escape t ++ q)
  | v => .error (.writtenQuote v.qualifiedKindName)

end LooseMarks

namespace Settings

/-- The marks that split by the given delimiter. -/
def looseMarks (s : Settings) (delimiter : Text) : LooseMarks := ⟨delimiter, s.quote, s.escape⟩

/-- Is there anything that stands for a quote? -/
def isQuoting (s : Settings) : Bool :=
  match s.quote with
  | .null => false
  | _ => true

/-- The text between quotes, with the quotes and escapes in it doubled. -/
def enclose (s : Settings) (t : Text) : Except LooseFault Text := (s.looseMarks []).enclose t

/-- The characters that structure a level with the given delimiter. -/
def specials (s : Settings) (delimiter : Value) : Except LooseFault Text :=
  (do
    let marks ← delimiter.sum s.quote
    let marks ← marks.sum (.text "\r\n")
    let marks ← marks.sum (if s.escape.isEmptyOrZero then .text [] else s.escape)
    return marks.characters : Except OperandError Text).mapError .operands

/-- The code point of a value that is one character or one byte. -/
def codePoint : Value → Except LooseFault Nat
  | .text [c] => .ok c.val
  | .bytes .fixed [b] | .bytes .buffer [b] => .ok b.toNat
  | .text t => .error (.severalCodePoints t.length)
  | .bytes .fixed b | .bytes .buffer b => .error (.severalCodePoints b.length)
  | v => .error (.noCodePoint v.qualifiedKindName)

/-- The highest code point among the characters that structure a line. -/
def highestMark (s : Settings) : Except LooseFault Nat :=
  match s.lineDelimiter.members? with
  | none => .error (.notIterable s.lineDelimiter.qualifiedKindName)
  | some ends => do
    let points ← (s.fieldDelimiter :: (ends ++ [s.quote])).mapM codePoint
    return points.foldl max 0

/-- Must the text of a column be quoted? What decides the question first is not held up by faulty
settings that only matter later. -/
def mustQuoteField (s : Settings) (type : ColumnType) (first : Bool) (t : Text) :
    Except LooseFault Bool := do
  if !s.isQuoting then return false
  if first && !s.allowComments.isEmptyOrZero && t.isComment then return true
  if type.isOfAnySize then return true
  let specials ← s.specials s.fieldDelimiter
  if type.isFreeText then
    let highest ← s.highestMark
    return t.any fun c =>
      c.val ≤ highest || s.quote.character? == some c || s.escape.character? == some c
  return t.any specials.contains || (type.hasInnerBlank && t.any CodePoint.isBlank)

/-- The text of a column as it stands in a line. -/
def fieldText (s : Settings) (type : ColumnType) (first : Bool) (t : Text) :
    Except LooseFault Text := do
  if ← s.mustQuoteField type first t then s.enclose t else return t

/-- The text of a leaf as it stands within a composite column. -/
def leafText (s : Settings) (type : ColumnType) (t : Text) : Except LooseFault Text := do
  if !s.isQuoting then return t
  let specials ← s.specials s.elementDelimiter
  if (type == .leaf .string && t.isEmpty) || t.any specials.contains then s.enclose t
  else return t

end Settings

end Delimited
