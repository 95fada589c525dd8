import BootSnapshot.Decimal.Natural

set_option autoImplicit false

namespace BootSnapshot.Bytes

/-- Two digits in lower case for every byte. -/
def hexDigits (bytes : List UInt8) : List Char :=
  bytes.flatMap fun byte =>
    [Decimal.digitChar (byte.toNat / 16), Decimal.digitChar (byte.toNat % 16)]

def hexText (bytes : List UInt8) : String := String.ofList (hexDigits bytes)

def ofHexDigits? : List Char → Option (List UInt8)
  | [] => some []
  | [_] => none
  | high :: low :: rest =>
    match Decimal.digitValue? 16 high, Decimal.digitValue? 16 low, ofHexDigits? rest with
    | some h, some l, some bytes => some (UInt8.ofNat (16 * h + l) :: bytes)
    | _, _, _ => none

end BootSnapshot.Bytes
