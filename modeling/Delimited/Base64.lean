import Delimited.Text.Basic

/-!
# Base64

Three bytes are four characters of six bits each; a last group of one or two bytes is padded
with `=` to four characters. Decoding wants such a group to be padded exactly, and padding at the
end only, but it ignores the bits that the last character has in excess, and padding that follows
a full group.
-/

namespace Delimited

namespace Base64

/-- The padding character. -/
def padding : CodePoint := .ofChar '='

/-- The character of a six-bit number. -/
def character (n : Nat) : CodePoint :=
  Fin.ofNat 0x110000 <|
    if n < 26 then 0x41 + n
    else if n < 52 then 0x61 + (n - 26)
    else if n < 62 then 0x30 + (n - 52)
    else if n = 62 then 0x2B
    else 0x2F

/-- The six-bit number of a character of the alphabet. -/
def sextet? (c : CodePoint) : Option Nat :=
  let n := c.val
  if 0x41 ≤ n && n ≤ 0x5A then some (n - 0x41)
  else if 0x61 ≤ n && n ≤ 0x7A then some (n - 0x61 + 26)
  else if 0x30 ≤ n && n ≤ 0x39 then some (n - 0x30 + 52)
  else if n = 0x2B then some 62
  else if n = 0x2F then some 63
  else none

/-- The text of a byte string. -/
def encode : List UInt8 → Text
  | [] => []
  | [a] =>
    let n := a.toNat
    [character (n / 4), character (n % 4 * 16), padding, padding]
  | [a, b] =>
    let n := a.toNat * 256 + b.toNat
    [character (n / 1024), character (n / 16 % 64), character (n % 16 * 4), padding]
  | a :: b :: c :: rest =>
    let n := a.toNat * 65536 + b.toNat * 256 + c.toNat
    character (n / 262144) :: character (n / 4096 % 64) :: character (n / 64 % 64)
      :: character (n % 64) :: encode rest

/-- The byte string of a text, if the text is well-formed: full groups, and at the end either an
exactly padded group or, behind the last full one, any padding. -/
def decode? : Text → Option (List UInt8)
  | [] => some []
  | a :: b :: c :: d :: rest =>
    if d = padding && rest.isEmpty then lastGroup a b c
    else if rest.all (· == padding) then group a b c d []
    else (decode? rest).bind (group a b c d)
  | _ => none
where
  /-- The bytes of a padded group of two or three characters. -/
  lastGroup (a b c : CodePoint) : Option (List UInt8) :=
    if c = padding then do
      let n := (← sextet? a) * 64 + (← sextet? b)
      some [UInt8.ofNat (n / 16)]
    else do
      let n := (← sextet? a) * 4096 + (← sextet? b) * 64 + (← sextet? c)
      some [UInt8.ofNat (n / 1024), UInt8.ofNat (n / 4 % 256)]
  /-- The three bytes of a full group, in front of those that follow. -/
  group (a b c d : CodePoint) (following : List UInt8) : Option (List UInt8) := do
    let n := (← sextet? a) * 262144 + (← sextet? b) * 4096 + (← sextet? c) * 64 + (← sextet? d)
    some (UInt8.ofNat (n / 65536) :: UInt8.ofNat (n / 256 % 256) :: UInt8.ofNat (n % 256)
      :: following)

end Base64

end Delimited
