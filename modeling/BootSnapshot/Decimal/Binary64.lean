import BootSnapshot.Decimal.Natural

set_option autoImplicit false

namespace BootSnapshot.Decimal

/-- A floating point number, given by its bits: sign, eleven bits of exponent, fraction. -/
structure Binary64 where
  bits : UInt64
deriving DecidableEq, Inhabited

namespace Binary64

/-- The number of fractions, which is two to the power 52. -/
abbrev fractionSize : Nat := 0x10000000000000

def isNegative (x : Binary64) : Bool := signedLimit ≤ x.bits.toNat

def exponentField (x : Binary64) : Nat := x.bits.toNat / fractionSize % 0x800

def fraction (x : Binary64) : Nat := x.bits.toNat % fractionSize

def isNaN (x : Binary64) : Bool := x.exponentField = 2047 && x.fraction ≠ 0

def isInfinite (x : Binary64) : Bool := x.exponentField = 2047 && x.fraction = 0

def isFinite (x : Binary64) : Bool := x.exponentField ≠ 2047

/-- The bits but for the sign. Of two values that are not negative, the greater one has the greater
magnitude. -/
def magnitude (x : Binary64) : Nat := x.bits.toNat % signedLimit

/-- The number of units that a finite value has. -/
def significand (x : Binary64) : Nat :=
  if x.exponentField = 0 then x.fraction else fractionSize + x.fraction

/-- The unit of a finite value is two to this power. -/
def unitExponent (x : Binary64) : Int :=
  if x.exponentField = 0 then -1074 else (x.exponentField : Int) - 1075

/-- The magnitude of a finite value as a fraction: units above, a power of two below. -/
def numerator (x : Binary64) : Nat := x.significand * Nat.pow 2 x.unitExponent.toNat

def denominator (x : Binary64) : Nat := Nat.pow 2 (-x.unitExponent).toNat

/-- Whether the next value below is nearer than the next value above. -/
def narrowBelow (x : Binary64) : Bool := x.fraction = 0 && 1 < x.exponentField

def ofMagnitude (negative : Bool) (magnitude : Nat) : Binary64 :=
  ⟨UInt64.ofNat (if negative then signedLimit + magnitude else magnitude)⟩

def infinityMagnitude : Nat := 2047 * fractionSize

def infinity (negative : Bool) : Binary64 := ofMagnitude negative infinityMagnitude

def nan (negative : Bool) : Binary64 := ofMagnitude negative (infinityMagnitude + 0x8000000000000)

/-- The quotient rounded to the nearest whole number, halves to the even one. -/
def roundQuotient (numerator denominator : Nat) : Nat :=
  let quotient := numerator / denominator
  let twice := 2 * (numerator % denominator)
  if twice < denominator then quotient
  else if denominator < twice then quotient + 1
  else if quotient % 2 = 0 then quotient else quotient + 1

/-- The greatest exponent of two that does not exceed a positive quotient. -/
def floorLog2 (numerator denominator : Nat) : Int :=
  let guess : Int := (numerator.log2 : Int) - (denominator.log2 : Int)
  if denominator * Nat.pow 2 guess.toNat ≤ numerator * Nat.pow 2 (-guess).toNat then guess
  else guess - 1

/-- Magnitude bits of the value nearest to a quotient; infinity beyond the largest. The bits of
neighbouring values are neighbouring numbers, so a significand that rounds up to the next power of
two carries into the exponent. -/
def nearestMagnitude (numerator denominator : Nat) : Nat :=
  if numerator = 0 then 0
  else
    let unit : Int := max (floorLog2 numerator denominator - 52) (-1074)
    let significand :=
      roundQuotient (numerator * Nat.pow 2 (-unit).toNat) (denominator * Nat.pow 2 unit.toNat)
    let magnitude :=
      if significand < fractionSize then significand
      else (unit + 1074).toNat * fractionSize + significand
    min magnitude infinityMagnitude

/-- The value nearest to a decimal number. Magnitudes of more than 400 places before the point
are infinite, and those with more than 400 zeros behind it are zero. -/
def ofDecimal (negative : Bool) (digits : Nat) (exponent : Int) : Binary64 :=
  let places : Int := ((natDigits digits).length : Int) + exponent
  if digits = 0 then ofMagnitude negative 0
  else if 400 < places then infinity negative
  else if places < -400 then ofMagnitude negative 0
  else
    ofMagnitude negative
      (nearestMagnitude (digits * Nat.pow 10 exponent.toNat) (Nat.pow 10 (-exponent).toNat))

end Binary64

/-- The longest run of decimal digits at the front, and what follows it. -/
def spanDigits (cs : List Char) : List Char × List Char := cs.span Char.isDigit

/-- An exponent mark with its digits; nothing if the digits are missing or more follows them. -/
def readExponent? (cs : List Char) : Option Int :=
  match cs with
  | [] => some 0
  | mark :: rest =>
    if mark = 'e' ∨ mark = 'E' then
      match rest with
      | '-' :: digits => (readNat? 10 digits).map fun n => -(n : Int)
      | '+' :: digits => (readNat? 10 digits).map fun n => (n : Int)
      | digits => (readNat? 10 digits).map fun n => (n : Int)
    else none

/-- A number without its sign: digits with at most one point among them, and an exponent; or a
name of infinity or of the missing number, in any case. -/
def readMagnitude? (negative : Bool) (cs : List Char) : Option Binary64 :=
  let lower := cs.map Char.toLower
  if lower = ['i', 'n', 'f'] ∨ lower = ['i', 'n', 'f', 'i', 'n', 'i', 't', 'y'] then
    some (Binary64.infinity negative)
  else if lower = ['n', 'a', 'n'] then some (Binary64.nan negative)
  else
    let (whole, afterWhole) := spanDigits cs
    let (places, afterPlaces) :=
      match afterWhole with
      | '.' :: rest => spanDigits rest
      | _ => ([], afterWhole)
    match readNat? 10 (whole ++ places), readExponent? afterPlaces with
    | some digits, some exponent =>
      some (Binary64.ofDecimal negative digits (exponent - (places.length : Int)))
    | _, _ => none

/-- A floating point number with an optional sign. -/
def readReal? (cs : List Char) : Option Binary64 :=
  match cs with
  | '-' :: rest => readMagnitude? true rest
  | '+' :: rest => readMagnitude? false rest
  | _ => readMagnitude? false cs

end BootSnapshot.Decimal
