set_option autoImplicit false

namespace BootSnapshot.Decimal

/-- Numbers of 64 bits without sign are below this. -/
abbrev unsignedLimit : Nat := 0x10000000000000000

/-- Numbers of 64 bits with sign are below this, and not below its negative. -/
abbrev signedLimit : Nat := 0x8000000000000000

def digitChar (value : Nat) : Char :=
  if value < 10 then Char.ofNat (48 + value) else Char.ofNat (87 + value)

/-- The value of a digit of the base, in either case. -/
def digitValue? (base : Nat) (c : Char) : Option Nat :=
  let value :=
    if '0' ≤ c ∧ c ≤ '9' then c.toNat - 48
    else if 'a' ≤ c ∧ c ≤ 'z' then c.toNat - 87
    else if 'A' ≤ c ∧ c ≤ 'Z' then c.toNat - 55
    else base
  if value < base then some value else none

def natDigits (n : Nat) : List Char :=
  if n < 10 then [digitChar n] else natDigits (n / 10) ++ [digitChar (n % 10)]

def intDigits (n : Int) : List Char :=
  if n < 0 then '-' :: natDigits n.natAbs else natDigits n.natAbs

/-- Continues a number read so far with further digits; nothing if a character is no digit. -/
def readOnto (base value : Nat) : List Char → Option Nat
  | [] => some value
  | c :: rest =>
    match digitValue? base c with
    | some digit => readOnto base (value * base + digit) rest
    | none => none

/-- The number that one or more digits stand for. -/
def readNat? (base : Nat) (cs : List Char) : Option Nat :=
  if cs.isEmpty then none else readOnto base 0 cs

/-- Digits with an optional plus sign that stand for a number below the limit. -/
def readUnsigned? (base limit : Nat) (cs : List Char) : Option Nat :=
  let digits :=
    match cs with
    | '+' :: rest => rest
    | _ => cs
  (readNat? base digits).filter (· < limit)

/-- Digits with an optional sign that stand for a signed number of 64 bits. -/
def readSigned? (cs : List Char) : Option Int :=
  match cs with
  | '-' :: digits =>
    ((readNat? 10 digits).filter (· ≤ signedLimit)).map fun n => -(n : Int)
  | _ => (readUnsigned? 10 signedLimit cs).map fun n => (n : Int)

def natText (n : Nat) : String := String.ofList (natDigits n)

def intText (n : Int) : String := String.ofList (intDigits n)

end BootSnapshot.Decimal
