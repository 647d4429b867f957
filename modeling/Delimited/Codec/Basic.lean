import Delimited.Row.Encode
import Delimited.Row.Decode

/-!
# Codecs

A codec turns rows of a schema into lines of a dialect and lines into rows. A line may also be a
comment, or malformed and dropped, if the dialect says so; either is logged.
-/

namespace Delimited

/-- A schema and a dialect. -/
structure Codec where
  /-- The columns of the rows. -/
  schema : Schema
  /-- How lines are structured and read. -/
  dialect : Dialect

/-- What a message turns out to be. -/
inductive Outcome where
  /-- A row of as many values as there are columns. -/
  | row (values : List Value)
  /-- A comment line. -/
  | comment (t : Text)
  /-- A malformed record that is tolerated. -/
  | dropped (f : ParseFault)

/-- The values of a row, if there is one. -/
def Outcome.values? : Outcome → Option (List Value)
  | row values => some values
  | comment _ | dropped _ => none

/-- A result, and the lines that are logged on the way to it, in order. -/
structure Logged (α : Type) where
  /-- The result. -/
  result : α
  /-- What is logged. -/
  log : List Text

namespace Codec

/-- The line of a row, with the line delimiter. -/
def encodeText (c : Codec) (row : Value) : Except EncodeError Text := do
  let values ← c.schema.rowValues row
  let fields ← c.dialect.writeColumns 0 c.schema.columns values
  return Text.join [c.dialect.fieldDelimiter] fields ++ c.dialect.lineDelimiter

/-- The line of a row in UTF-8. -/
def encode (c : Codec) (row : Value) : Except EncodeError (List UInt8) := do
  (Utf8.encode (← c.encodeText row)).mapError .unencodable

/-- What a caller gets for a row: its line, or a failure, for which so many levels are left to show
values. -/
def serialize (levels : Nat) (c : Codec) (row : Value) : Except Failure (List UInt8) :=
  (c.encode row).mapError (·.failure levels)

/-- The text of a message. -/
def messageText (message : Value) : Except DecodeError Text :=
  match message with
  | .text t => .ok t
  | .bytes _ b =>
    match Utf8.decode b with
    | .ok t => .ok t
    | .error m => .error (.ofCaught [.decoding] m.failure ⟨none, Quoted.bytes b, .utf8 m⟩)
  | v => .error (.notText v.kindName)

/-- The line that is logged for a comment. -/
def commentLine (t : Text) : Text := ("Skipping comment line: " : Text) ++ t.quoted

/-- The line that is logged for a malformed record that is dropped. -/
def droppedLine (f : ParseFault) : Text := ("Dropping malformed record: " : Text) ++ f.message

/-- Decodes a message where malformed records are errors. -/
def runStrict (c : Codec) (message : Value) : Logged (Except DecodeError Outcome) :=
  match messageText message with
  | .error e => ⟨.error e, []⟩
  | .ok t =>
    if c.dialect.allowComments && t.isComment then ⟨.ok (.comment t), [commentLine t]⟩
    else ⟨(c.schema.decodeRecord c.dialect t).map .row, []⟩

/-- Decodes a message. Of the errors only malformed records are tolerated. -/
def run (c : Codec) (message : Value) : Logged (Except DecodeError Outcome) :=
  match c.runStrict message with
  | ⟨.error (.malformed f), log⟩ =>
    if c.dialect.ignoreMalformed then ⟨.ok (.dropped f), log ++ [droppedLine f]⟩
    else ⟨.error (.malformed f), log⟩
  | strict => strict

/-- What a message is when malformed records are errors. -/
def decodeStrict (c : Codec) (message : Value) : Except DecodeError Outcome :=
  (c.runStrict message).result

/-- What a message is. -/
def decode (c : Codec) (message : Value) : Except DecodeError Outcome := (c.run message).result

/-- A row of the schema as a mapping from the columns' names. -/
def asMapping (c : Codec) (values : List Value) : Value :=
  .mapping .dictionary ((c.schema.names.map Value.text).zip values)

end Codec

end Delimited
