import Delimited.Failure
import Delimited.Text.Quoted

/-!
# UTF-8

Code points as one to four bytes. Decoding takes the well-formed sequences only: no overlong
forms, no surrogates, nothing above `10FFFF`. A fault names the bytes it covers, which are the
longest start of a well-formed sequence at that place. Encoding refuses surrogates and names
their first run.
-/

namespace Delimited

namespace Utf8

/-- What is wrong at a place where no well-formed sequence stands. -/
inductive Fault where
  /-- The byte starts no sequence. -/
  | start
  /-- A byte does not continue the sequence. -/
  | continuation
  /-- The bytes end within the sequence. -/
  | truncated

/-- The wording of a fault. -/
def Fault.message : Fault → String
  | .start => "invalid start byte"
  | .continuation => "invalid continuation byte"
  | .truncated => "unexpected end of data"

/-- The first place at which bytes are not well-formed. -/
structure Malformed where
  /-- How many bytes stand before it. -/
  position : Nat
  /-- The first byte there. -/
  first : UInt8
  /-- How many more bytes belong to the started sequence. -/
  more : Nat
  /-- What is wrong. -/
  fault : Fault

/-- A range of positions, as messages write it. -/
def spanText (position count : Nat) : Text :=
  if count ≤ 1 then Digits.ofNat position
  else Digits.ofNat position ++ .ofChar '-' :: Digits.ofNat (position + count - 1)

/-- The wording of a malformed place. -/
def Malformed.message (m : Malformed) : Text :=
  ("'utf-8' codec can't decode " : Text)
    ++ (if m.more = 0 then ("byte 0x" : Text) ++ Digits.hex 2 m.first.toNat else ("bytes" : Text))
    ++ (" in position " : Text) ++ spanText m.position (m.more + 1) ++ (": " : Text)
    ++ Text.ofString m.fault.message

/-- The failure to decode. -/
def Malformed.failure (m : Malformed) : Failure := ⟨.decoding, some m.message, none⟩

/-- What the first byte of a longer sequence announces. -/
structure Lead where
  /-- The code point's leading bits. -/
  bits : Nat
  /-- How many bytes follow the second one. -/
  afterSecond : Nat
  /-- The least second byte. -/
  low : UInt8 := 0x80
  /-- The greatest second byte. -/
  high : UInt8 := 0xBF

/-- What a first byte announces, if it starts a sequence of several bytes. -/
def lead? (b : UInt8) : Option Lead :=
  if b < 0xC2 then none
  else if b < 0xE0 then some { bits := b.toNat - 0xC0, afterSecond := 0 }
  else if b = 0xE0 then some { bits := 0, afterSecond := 1, low := 0xA0 }
  else if b = 0xED then some { bits := 0xD, afterSecond := 1, high := 0x9F }
  else if b < 0xF0 then some { bits := b.toNat - 0xE0, afterSecond := 1 }
  else if b = 0xF0 then some { bits := 0, afterSecond := 2, low := 0x90 }
  else if b < 0xF4 then some { bits := b.toNat - 0xF0, afterSecond := 2 }
  else if b = 0xF4 then some { bits := 4, afterSecond := 2, high := 0x8F }
  else none

/-- Does the byte continue a sequence? -/
def isContinuation (b : UInt8) : Bool := 0x80 ≤ b && b ≤ 0xBF

/-- The bits so far followed by the six bits of a continuation byte. -/
def extend (bits : Nat) (b : UInt8) : Nat := bits * 64 + (b.toNat - 0x80)

/-- The code point of a well-formed sequence's bits. -/
def point (bits : Nat) : CodePoint := Fin.ofNat 0x110000 bits

/-- Decodes the bytes from the given position on. -/
def decodeFrom (position : Nat) : List UInt8 → Except Malformed Text
  | [] => .ok []
  | b :: rest =>
    if b < 0x80 then (decodeFrom (position + 1) rest).map (point b.toNat :: ·)
    else
      match lead? b with
      | none => .error ⟨position, b, 0, .start⟩
      | some lead =>
        match rest with
        | [] => .error ⟨position, b, 0, .truncated⟩
        | c :: rest =>
          if c < lead.low || lead.high < c then .error ⟨position, b, 0, .continuation⟩
          else
            let bits := extend lead.bits c
            match lead.afterSecond, rest with
            | 0, rest => (decodeFrom (position + 2) rest).map (point bits :: ·)
            | _ + 1, [] => .error ⟨position, b, 1, .truncated⟩
            | more + 1, d :: rest =>
              if !isContinuation d then .error ⟨position, b, 1, .continuation⟩
              else
                let bits := extend bits d
                match more, rest with
                | 0, rest => (decodeFrom (position + 3) rest).map (point bits :: ·)
                | _ + 1, [] => .error ⟨position, b, 2, .truncated⟩
                | _ + 1, e :: rest =>
                  if !isContinuation e then .error ⟨position, b, 2, .continuation⟩
                  else (decodeFrom (position + 4) rest).map (point (extend bits e) :: ·)

/-- Decodes a byte string. -/
def decode (bytes : List UInt8) : Except Malformed Text := decodeFrom 0 bytes

/-- The bytes of one code point. -/
def encodePoint (c : CodePoint) : List UInt8 :=
  let n := c.val
  let continuation (bits : Nat) : UInt8 := UInt8.ofNat (0x80 + bits % 64)
  if n < 0x80 then [UInt8.ofNat n]
  else if n < 0x800 then [UInt8.ofNat (0xC0 + n / 64), continuation n]
  else if n < 0x10000 then
    [UInt8.ofNat (0xE0 + n / 4096), continuation (n / 64), continuation n]
  else
    [UInt8.ofNat (0xF0 + n / 262144), continuation (n / 4096), continuation (n / 64),
      continuation n]

/-- The first run of surrogates of a text. -/
structure Unencodable where
  /-- How many code points stand before the run. -/
  position : Nat
  /-- The first surrogate. -/
  first : CodePoint
  /-- How many more follow it. -/
  more : Nat

/-- The wording of a run of surrogates. -/
def Unencodable.message (u : Unencodable) : Text :=
  ("'utf-8' codec can't encode " : Text)
    ++ (if u.more = 0 then
        ("character " : Text) ++ [Quoted.apostrophe] ++ Quoted.numbered u.first
          ++ [Quoted.apostrophe]
      else ("characters" : Text))
    ++ (" in position " : Text) ++ spanText u.position (u.more + 1)
    ++ (": surrogates not allowed" : Text)

/-- The failure to encode. -/
def Unencodable.failure (u : Unencodable) : Failure := ⟨.encoding, some u.message, none⟩

/-- The first run of surrogates, if there is one. -/
def unencodable? (t : Text) : Option Unencodable :=
  match t.dropWhile (!·.isSurrogate) with
  | [] => none
  | c :: rest =>
    some ⟨(t.takeWhile (!·.isSurrogate)).length, c, (rest.takeWhile CodePoint.isSurrogate).length⟩

/-- Encodes a text. -/
def encode (t : Text) : Except Unencodable (List UInt8) :=
  match unencodable? t with
  | some u => .error u
  | none => .ok (t.flatMap encodePoint)

end Utf8

end Delimited
