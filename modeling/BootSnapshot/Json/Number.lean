import BootSnapshot.Json.Value

set_option autoImplicit false

namespace BootSnapshot.Json

open Decimal (Binary64)

/-- The number that digits stand for as long as it has 64 bits, from a number in front of them on,
and how many digits are left over. -/
def holdDigits (value : Nat) : List Char → Nat × Nat
  | [] => (value, 0)
  | c :: rest =>
    let longer := value * 10 + (Decimal.digitValue? 10 c).getD 0
    if longer < Decimal.unsignedLimit then holdDigits longer rest else (value, rest.length + 1)

/-- Powers of ten up to this one can be multiplied with. -/
def maxPower : Nat := 308

def product (x y : Binary64) : Binary64 :=
  .ofMagnitude false
    (Binary64.nearestMagnitude (x.numerator * y.numerator) (x.denominator * y.denominator))

/-- The quotient of two magnitudes, of which the second is not zero. -/
def quotient (x y : Binary64) : Binary64 :=
  .ofMagnitude false
    (Binary64.nearestMagnitude (x.numerator * y.denominator) (x.denominator * y.numerator))

def powerOfTen (exponent : Nat) : Binary64 := .ofDecimal false 1 exponent

/-- A magnitude times a power of ten, if it is finite. -/
def scale? (x : Binary64) (exponent : Int) : Option Binary64 :=
  if x.significand = 0 then some x
  else if (maxPower : Int) < exponent then none
  else if 0 ≤ exponent then some (product x (powerOfTen exponent.toNat)) |>.filter (·.isFinite)
  else if -(maxPower : Int) ≤ exponent then some (quotient x (powerOfTen exponent.natAbs))
  else scale? (quotient x (powerOfTen maxPower)) (exponent + maxPower)
termination_by exponent.natAbs
decreasing_by simp only [maxPower] at *; omega

/-- A number as it is written: the digits on both sides of the point, and the exponent. -/
structure NumberText where
  isNegative : Bool
  whole : List Char
  fraction : List Char
  exponent : Int

namespace NumberText

/-- The number of digits is right: one or more, and no zero before others. -/
def isWhole (digits : List Char) : Bool :=
  match digits with
  | [] => false
  | ['0'] => true
  | '0' :: _ => false
  | _ => digits.all Char.isDigit

/-- The digits behind a point, if there is one, and what follows them. -/
def cutFraction? (cs : List Char) : Option (List Char × List Char) :=
  match cs with
  | '.' :: rest =>
    let digits := rest.takeWhile Char.isDigit
    if digits = [] then none else some (digits, rest.drop digits.length)
  | _ => some ([], cs)

def read? (word : List Char) : Option NumberText := do
  let isNegative := word.head? = some '-'
  let unsigned := if isNegative then word.drop 1 else word
  let whole := unsigned.takeWhile Char.isDigit
  let (fraction, behind) ← cutFraction? (unsigned.drop whole.length)
  let exponent ← Decimal.readExponent? behind
  if isWhole whole then return ⟨isNegative, whole, fraction, exponent⟩ else none

/-- The floating point number of the text, if it is finite. Digits in front of the point that are
left over count for the exponent. -/
def toReal? (text : NumberText) : Option Binary64 :=
  let (wholeHeld, leftOver) := holdDigits 0 text.whole
  let (held, dropped) := holdDigits wholeHeld text.fraction
  let taken := text.fraction.length - dropped
  let start := Binary64.ofMagnitude false (Binary64.nearestMagnitude held 1)
  (scale? start (text.exponent + leftOver - taken)).map fun x =>
    .ofMagnitude text.isNegative x.magnitude

end NumberText

/-- The number that a word stands for. A negative zero is a floating point number. -/
def number? (word : List Char) : Option Json :=
  (NumberText.read? word).bind fun text =>
    match if word = ['-', '0'] then none else Decimal.readSigned? word with
    | some n => some (.integer n)
    | none => text.toReal?.map .real

end BootSnapshot.Json
