import Delimited.Field.Split

/-!
# What raw fields stand for

In a quoted field the text is what stands between the first quote and the last one, where doubled
quotes, escaped quotes and escaped escapes are one character. In an unquoted field an escape
before a delimiter, a quote or an escape is left out. Other escapes are kept as they are.
-/

namespace Delimited

namespace Marks

/-- What stands before the last occurrence of a part of a text, if there is one. -/
def beforeLast? (part : Text) : Text → Option Text
  | [] => if part.isEmpty then some [] else none
  | c :: rest =>
    match beforeLast? part rest with
    | some before => some (c :: before)
    | none => if part.isPrefixOf (c :: rest) then some [] else none

/-- What a text between quotes stands for. -/
def decodeQuoted (m : Marks) : Text → Text
  | [] => []
  | [c] => [c]
  | c :: d :: rest =>
    if m.isQuotedPair c d then d :: m.decodeQuoted rest else c :: m.decodeQuoted (d :: rest)

/-- Does an escape protect the second character outside of quotes? -/
def isBarePair (m : Marks) (c d : CodePoint) : Bool :=
  m.escape == some c && (m.delimiter == some d || m.escape == some d || m.quote == some d)

/-- What an unquoted field stands for. -/
def decodeBare (m : Marks) : Text → Text
  | [] => []
  | [c] => [c]
  | c :: d :: rest =>
    if m.isBarePair c d then d :: m.decodeBare rest
    else c :: m.decodeBare (d :: rest)

/-- What a raw field stands for. -/
def decode (m : Marks) (raw : Text) : Except SplitFault Text :=
  match raw with
  | [] => .ok []
  | c :: rest =>
    if m.quote = some c then
      match beforeLast? [c] rest with
      | none => .error .unterminatedField
      | some inner => .ok (m.decodeQuoted inner)
    else .ok (m.decodeBare raw)

/-- The fields of a line, decoded. -/
def split (m : Marks) (record : Bool) (line : Text) : Except SplitFault (List Text) := do
  (← m.rawFields record line).mapM m.decode

end Marks

end Delimited
