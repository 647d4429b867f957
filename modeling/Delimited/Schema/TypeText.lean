import Delimited.Schema.Error
import Delimited.Text.Alphanumeric
import Delimited.Text.Blank
import Delimited.Text.UpperCase

/-!
# Written types

A type is read from the tokens of its text: names, in any case, and the signs `<`, `>` and `,`,
with blanks anywhere between them. A leaf type is its name, an array `ARRAY<T>`, a row
`ROW<T, …>`. The reader takes composites within composites and refuses them only when they are
complete, so that a fault in their text is found first. Only so many of them are followed inwards.
-/

namespace Delimited

namespace TypeText

/-- The kinds of tokens. -/
inductive TokenKind where
  /-- A run of letters, numbers and underscores, in upper case. -/
  | name (upper : Text)
  /-- Any other character that is not blank. -/
  | sign (c : CodePoint)
  deriving DecidableEq

/-- A token and its place in the text. -/
structure Token where
  /-- What the token is. -/
  kind : TokenKind
  /-- The position of its first character. -/
  start : Nat
  /-- The position after its last character. -/
  stop : Nat

/-- May the code point be part of a name? -/
def isNamePart (c : CodePoint) : Bool := c.isAlphanumeric || c == .ofChar '_'

/-- The tokens of a text that starts at the given position. Names are as long as possible. -/
def tokensFrom (position : Nat) : Text → List Token
  | [] => []
  | c :: rest =>
    if c.isBlank then tokensFrom (position + 1) rest
    else if isNamePart c then
      let name := c :: rest.takeWhile isNamePart
      ⟨.name (Text.upperCase name), position, position + name.length⟩
        :: tokensFrom (position + name.length) (rest.dropWhile isNamePart)
    else ⟨.sign c, position, position + 1⟩ :: tokensFrom (position + 1) rest
  termination_by t => t.length
  decreasing_by
    · simp
    · have := (List.dropWhile_suffix isNamePart (l := rest)).length_le
      simp only [List.length_cons]
      omega
    · simp

/-- The tokens of a text. -/
def tokens (t : Text) : List Token := tokensFrom 0 t

/-- How many composites may stand within one another while they are read. -/
def maxDepth : Nat := 990

/-- Goes into a composite that stands within `depth` others. -/
def enter (depth : Nat) : Except SchemaError Unit :=
  if depth < maxDepth then .ok () else .error .tooDeep

/-- What is read, kept for messages and for the position of its end. -/
structure Source where
  /-- The text. -/
  text : Text

namespace Source

/-- A fault at a position of the text. -/
def fault (s : Source) (position : Nat) (f : TypeTextFault) : SchemaError :=
  .typeText s.text position f

/-- The position of the next token, the end of the text if there is none. -/
def nextPosition (s : Source) : List Token → Nat
  | [] => s.text.length
  | token :: _ => token.start

/-- What is read from the start of some tokens, and the tokens that follow. -/
structure Reading (α : Type) (bound : Nat) where
  /-- What is read. -/
  value : α
  /-- The tokens that follow. -/
  rest : List Token
  /-- Fewer than the bound follow, which lets the reader end. -/
  rest_lt : rest.length < bound

/-- Reads the given sign, which has to stand next. -/
def expect (s : Source) (c : CodePoint) (ts : List Token) :
    Except SchemaError (Reading Unit ts.length) :=
  match ts with
  | [] => .error (s.fault (s.nextPosition []) (.expected c))
  | token :: rest =>
    if token.kind = .sign c then .ok ⟨(), rest, by simp⟩
    else .error (s.fault (s.nextPosition (token :: rest)) (.expected c))

mutual

/-- Reads a type at the start of the tokens, which stands within `depth` composites. -/
def readType (s : Source) (depth : Nat) (ts : List Token) :
    Except SchemaError (Reading ColumnType ts.length) :=
  match ts with
  | [] => .error (s.fault (s.nextPosition []) .nameExpected)
  | token :: rest =>
    match token.kind with
    | .sign _ => .error (s.fault (s.nextPosition (token :: rest)) .nameExpected)
    | .name name =>
      if name = ColumnType.rowName then do
        enter depth
        let ⟨_, afterOpening, _⟩ ← s.expect (.ofChar '<') rest
        let ⟨first, afterFirst, _⟩ ← s.readType (depth + 1) afterOpening
        let ⟨others, afterFields, _⟩ ← s.readFields (depth + 1) afterFirst
        let ⟨_, afterClosing, _⟩ ← s.expect (.ofChar '>') afterFields
        -- Only a row that is complete is checked for composites among its fields.
        let fields ← (first :: others).mapM (·.asLeaf .row)
        let type ← ColumnType.ofFields fields
        return ⟨type, afterClosing, by simp only [List.length_cons]; omega⟩
      else if name = ColumnType.arrayName then do
        enter depth
        let ⟨_, afterOpening, _⟩ ← s.expect (.ofChar '<') rest
        let ⟨element, afterElement, _⟩ ← s.readType (depth + 1) afterOpening
        let ⟨_, afterClosing, _⟩ ← s.expect (.ofChar '>') afterElement
        let leaf ← element.asLeaf .array
        return ⟨.array leaf, afterClosing, by simp only [List.length_cons]; omega⟩
      else
        match LeafType.ofName? name with
        | some type => .ok ⟨.leaf type, rest, by simp⟩
        | none => .error (s.fault token.stop (.unknown name))
  termination_by ts.length
  decreasing_by all_goals simp only [List.length_cons]; omega

/-- Reads the further fields of a row, each after a comma; they stand within `depth` composites. -/
def readFields (s : Source) (depth : Nat) (ts : List Token) :
    Except SchemaError (Reading (List ColumnType) (ts.length + 1)) :=
  match ts with
  | [] => .ok ⟨[], [], by simp⟩
  | token :: rest =>
    if token.kind = .sign (.ofChar ',') then do
      let ⟨field, afterField, _⟩ ← s.readType depth rest
      let ⟨others, afterFields, _⟩ ← s.readFields depth afterField
      return ⟨field :: others, afterFields, by simp only [List.length_cons]; omega⟩
    else .ok ⟨[], token :: rest, by simp⟩
  termination_by ts.length
  decreasing_by all_goals simp only [List.length_cons]; omega

end

end Source

/-- The type that a text writes. -/
def parse (t : Text) : Except SchemaError ColumnType := do
  let s : Source := ⟨t⟩
  let ⟨type, rest, _⟩ ← s.readType 0 (tokens t)
  if rest.isEmpty then return type
  else throw (s.fault (s.nextPosition rest) .trailing)

end TypeText

end Delimited
