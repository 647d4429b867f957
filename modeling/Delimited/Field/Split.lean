import Delimited.Dialect.Basic
import Delimited.Failure
import Delimited.Text.Blank
import Delimited.Text.Quoted

/-!
# Splitting a line into raw fields

Fields are separated by the delimiter except inside a quoted span. Such a span starts with a
quote as the first character of a field and ends at the next quote that is neither doubled nor
escaped; only blanks may follow it up to the delimiter. Outside of quotes the escape protects the
character behind it. In a record a line break outside of quotes ends the last field, and only
line breaks may follow.

The fields are raw: quotes and escapes still stand in them. Each step works on the rest of the
line, and a fault is told by the rest that it starts, from which its position is counted.
-/

namespace Delimited

/-- Why a line cannot be split. -/
inductive SplitFault where
  /-- The field at that position starts with a quote and never ends. -/
  | unterminated (position : Nat)
  /-- Something other than a blank follows a closing quote. -/
  | afterQuote (c : CodePoint) (position : Nat)
  /-- Something other than line breaks follows the end of the record. -/
  | afterRecord (position : Nat)
  /-- A raw field that starts with a quote has no other. -/
  | unterminatedField

/-- The wording of a fault. -/
def SplitFault.message : SplitFault → Text
  | unterminated position =>
    ("Unterminated quoted field starting at position " : Text) ++ Digits.ofNat position
  | afterQuote c position =>
    ("Unexpected character " : Text) ++ Text.quoted [c]
      ++ (" after closing quote at position " : Text) ++ Digits.ofNat position
  | afterRecord position =>
    ("Unexpected data after the record terminator at position " : Text)
      ++ Digits.ofNat position
  | unterminatedField => "Unterminated quoted field"

/-- The failure to split a line. -/
def SplitFault.failure (f : SplitFault) : Failure := ⟨.value, some f.message, none⟩

namespace Marks

/-- Does the character end an unquoted run: a delimiter, or a line break in a record? -/
def isStop (m : Marks) (record : Bool) (c : CodePoint) : Bool :=
  m.delimiter == some c || (record && c.isLineBreak)

/-- Do two characters stand for one within quotes: a doubled quote, an escaped quote or an escaped
escape? -/
def isQuotedPair (m : Marks) (c d : CodePoint) : Bool :=
  (m.escape == some c && (m.quote == some d || m.escape == some d))
    || (m.quote == some c && m.quote == some d)

/-- The rest of a quoted span up to and with its closing quote, and what follows; none if it does
not end. -/
def quotedSpan? (m : Marks) : Text → Option (Text × Text)
  | [] => none
  | [c] => if m.quote = some c then some ([c], []) else none
  | c :: d :: rest =>
    -- A pair is taken first: its first character may be a quote itself.
    if m.isQuotedPair c d then
      (m.quotedSpan? rest).map fun (span, after) => (c :: d :: span, after)
    else if m.quote = some c then some ([c], d :: rest)
    else (m.quotedSpan? (d :: rest)).map fun (span, after) => (c :: span, after)

/-- The longest unquoted run, in which an escape protects the next character, and what follows. -/
def bareSpan (m : Marks) (record : Bool) : Text → Text × Text
  | [] => ([], [])
  | [c] => if m.isStop record c then ([], [c]) else ([c], [])
  | c :: d :: rest =>
    if m.isStop record c then ([], c :: d :: rest)
    -- Whatever follows an escape is part of the run, a stop included.
    else if m.escape = some c then
      let (span, after) := m.bareSpan record rest
      (c :: d :: span, after)
    else
      let (span, after) := m.bareSpan record (d :: rest)
      (c :: span, after)

/-- A place in a line where it cannot be split, by the rest of the line from there on. -/
inductive Obstacle where
  /-- The quoted field that starts the rest does not end. -/
  | unterminated (rest : Text)
  /-- The character that starts the rest follows a closing quote. -/
  | afterQuote (c : CodePoint) (rest : Text)
  /-- The rest follows the end of the record. -/
  | afterRecord (rest : Text)

/-- The blanks between a closing quote and the next stop, and what follows them. -/
def blanksAfterQuote (m : Marks) (record : Bool) : Text → Except Obstacle (Text × Text)
  | [] => .ok ([], [])
  | c :: rest =>
    if m.isStop record c then .ok ([], c :: rest)
    else if c.isBlank then
      (m.blanksAfterQuote record rest).map fun (blanks, after) => (c :: blanks, after)
    else .error (.afterQuote c (c :: rest))

/-- The raw field at the start of the rest of a line, and what follows it. -/
def field (m : Marks) (record : Bool) (t : Text) : Except Obstacle (Text × Text) :=
  match t with
  | [] => .ok ([], [])
  | c :: rest =>
    if m.quote = some c then
      match m.quotedSpan? rest with
      | none => .error (.unterminated t)
      | some (span, after) => do
        let (blanks, left) ← m.blanksAfterQuote record after
        return (c :: (span ++ blanks), left)
    else .ok (m.bareSpan record t)

/-- A quoted span and what follows it make up the text. -/
theorem append_of_quotedSpan? {m : Marks} {t span after : Text}
    (h : m.quotedSpan? t = some (span, after)) : span ++ after = t := by
  fun_induction quotedSpan? m t generalizing span after with
  | case1 => cases h
  | case2 => cases h; rfl
  | case3 => cases h
  | case4 c d rest _ ih =>
    obtain ⟨⟨span', after'⟩, hspan, heq⟩ := Option.map_eq_some_iff.1 h
    cases heq
    simp [ih hspan]
  | case5 => cases h; rfl
  | case6 c d rest _ _ ih =>
    obtain ⟨⟨span', after'⟩, hspan, heq⟩ := Option.map_eq_some_iff.1 h
    cases heq
    simp [ih hspan]

/-- An unquoted run and what follows it make up the text. -/
theorem append_bareSpan (m : Marks) (record : Bool) (t : Text) :
    (m.bareSpan record t).1 ++ (m.bareSpan record t).2 = t := by
  fun_induction bareSpan m record t <;> simp_all

/-- The blanks behind a quote and what follows them make up the text. -/
theorem append_of_blanksAfterQuote {m : Marks} {record : Bool} {t blanks after : Text}
    (h : m.blanksAfterQuote record t = .ok (blanks, after)) : blanks ++ after = t := by
  induction t generalizing blanks after with
  | nil => cases h; rfl
  | cons c rest ih =>
    unfold blanksAfterQuote at h
    split at h
    · cases h; rfl
    · split at h
      · cases hrest : m.blanksAfterQuote record rest with
        | error o => rw [hrest] at h; cases h
        | ok r =>
          rw [hrest] at h
          cases h
          simp [ih hrest]
      · cases h

/-- A raw field and what follows it make up the text. -/
theorem append_of_field {m : Marks} {record : Bool} {t f left : Text}
    (h : m.field record t = .ok (f, left)) : f ++ left = t := by
  unfold field at h
  split at h
  · cases h; rfl
  · next c rest =>
    split at h
    · split at h
      · cases h
      · next span after hspan =>
        cases hblanks : m.blanksAfterQuote record after with
        | error o => rw [hblanks] at h; cases h
        | ok r =>
          rw [hblanks] at h
          cases h
          simp [append_of_blanksAfterQuote hblanks, append_of_quotedSpan? hspan]
    · have hspan : m.bareSpan record (c :: rest) = (f, left) := Except.ok.inj h
      have := append_bareSpan m record (c :: rest)
      rwa [hspan] at this

/-- The raw fields of the rest of a line. -/
def fields (m : Marks) (record : Bool) (t : Text) : Except Obstacle (List Text) :=
  match _h : m.field record t with
  | .error o => .error o
  | .ok (f, []) => .ok [f]
  | .ok (f, c :: rest) =>
    if m.delimiter = some c then (m.fields record rest).map (f :: ·)
    else if (c :: rest).all CodePoint.isLineBreak then .ok [f]
    else .error (.afterRecord (c :: rest))
  termination_by t.length
  decreasing_by
    have := congrArg List.length (append_of_field ‹_›)
    simp only [List.length_append, List.length_cons] at this
    omega

/-- The fault of an obstacle in a line; positions count from the start of the line. -/
def Obstacle.fault (line : Text) : Obstacle → SplitFault
  | unterminated rest => .unterminated (line.length - rest.length)
  | afterQuote c rest => .afterQuote c (line.length - rest.length)
  | afterRecord rest => .afterRecord (line.length - rest.length)

/-- The raw fields of a line. -/
def rawFields (m : Marks) (record : Bool) (line : Text) : Except SplitFault (List Text) :=
  (m.fields record line).mapError (Obstacle.fault line)

end Marks

end Delimited
