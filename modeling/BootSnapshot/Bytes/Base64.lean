set_option autoImplicit false

namespace BootSnapshot.Bytes.Base64

/-- The character of a value below 64. -/
def letter (value : Nat) : Char :=
  if value < 26 then Char.ofNat (65 + value)
  else if value < 52 then Char.ofNat (71 + value)
  else if value < 62 then Char.ofNat (value - 4)
  else if value = 62 then '+'
  else '/'

/-- The value of a character of the alphabet. -/
def value? (c : Char) : Option Nat :=
  if 'A' ≤ c ∧ c ≤ 'Z' then some (c.toNat - 65)
  else if 'a' ≤ c ∧ c ≤ 'z' then some (c.toNat - 71)
  else if '0' ≤ c ∧ c ≤ '9' then some (c.toNat + 4)
  else if c = '+' then some 62
  else if c = '/' then some 63
  else none

/-- Three bytes are written with four characters of an alphabet of 64. The last one or two bytes are
padded to four characters as well. -/
def encode : List UInt8 → List Char
  | [] => []
  | [a] => [letter (a.toNat / 4), letter (a.toNat % 4 * 16), '=', '=']
  | [a, b] =>
    [letter (a.toNat / 4), letter (a.toNat % 4 * 16 + b.toNat / 16), letter (b.toNat % 16 * 4), '=']
  | a :: b :: c :: rest =>
    letter (a.toNat / 4) :: letter (a.toNat % 4 * 16 + b.toNat / 16) ::
      letter (b.toNat % 16 * 4 + c.toNat / 64) :: letter (c.toNat % 64) :: encode rest

def firstByte (a b : Nat) : UInt8 := UInt8.ofNat (a * 4 + b / 16)

def secondByte (b c : Nat) : UInt8 := UInt8.ofNat (b % 16 * 16 + c / 4)

def thirdByte (c d : Nat) : UInt8 := UInt8.ofNat (c % 4 * 64 + d)

/-- The bytes of characters that are a written form. The padding must be there, and the bits that it
leaves unused must be zero, so that a list of bytes has one written form. -/
def decode? : List Char → Option (List UInt8)
  | [] => some []
  | [a, b, '=', '='] =>
    match value? a, value? b with
    | some a, some b => if b % 16 = 0 then some [firstByte a b] else none
    | _, _ => none
  | [a, b, c, '='] =>
    match value? a, value? b, value? c with
    | some a, some b, some c => if c % 4 = 0 then some [firstByte a b, secondByte b c] else none
    | _, _, _ => none
  | a :: b :: c :: d :: rest =>
    match value? a, value? b, value? c, value? d, decode? rest with
    | some a, some b, some c, some d, some bytes =>
      some (firstByte a b :: secondByte b c :: thirdByte c d :: bytes)
    | _, _, _, _, _ => none
  | _ => none

end BootSnapshot.Bytes.Base64
