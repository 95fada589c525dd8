import BootSnapshot.Decimal.Binary64

set_option autoImplicit false

namespace BootSnapshot.Decimal

/-- What is done when two points of the grid are equally near. -/
inductive Tie where
  | toEven
  | upward
deriving DecidableEq

/-- A decimal number: digits times a power of ten. -/
structure Scaled where
  digits : Nat
  exponent : Int
deriving DecidableEq

namespace Scaled

def compareUnits (d : Scaled) (units : Nat) (unitExponent : Int) : Ordering :=
  compare (d.digits * Nat.pow 10 d.exponent.toNat * Nat.pow 2 (-unitExponent).toNat)
    (units * Nat.pow 2 unitExponent.toNat * Nat.pow 10 (-d.exponent).toNat)

/-- Whether the decimal number is among the reals that round to the magnitude of `x`. The bounds
lie halfway to the neighbours of `x` and belong to the interval if the significand is even. -/
def readsBackAs (d : Scaled) (x : Binary64) : Bool :=
  let quarters := 4 * x.significand
  let lower := d.compareUnits (if x.narrowBelow then quarters - 1 else quarters - 2)
    (x.unitExponent - 2)
  let upper := d.compareUnits (quarters + 2) (x.unitExponent - 2)
  let closed := x.significand % 2 = 0
  (lower = .gt || closed && lower = .eq) && (upper = .lt || closed && upper = .eq)

/-- Moves zeros at the end of the digits into the exponent. -/
def strip (d : Scaled) : Scaled :=
  if positive : 0 < d.digits ∧ d.digits % 10 = 0 then strip ⟨d.digits / 10, d.exponent + 1⟩ else d
termination_by d.digits
decreasing_by exact Nat.div_lt_self positive.1 (by decide)

end Scaled

namespace Binary64

/-- The number of decimal places before the point of a positive magnitude; zero or less counts the
zeros behind the point. -/
def places (x : Binary64) : Int :=
  let whole := x.numerator / x.denominator
  if 0 < whole then ((natDigits whole).length : Int)
  else
    let inverse := x.denominator / x.numerator
    let guess : Int := 1 - ((natDigits inverse).length : Int)
    if x.denominator ≤ x.numerator * Nat.pow 10 (1 - guess).toNat ∧
        x.numerator * Nat.pow 10 (-guess).toNat < x.denominator then guess
    else guess + 1

/-- The point to take on the grid of the given exponent, if one next to `x` reads back. -/
def onGrid? (tie : Tie) (x : Binary64) (exponent : Int) : Option Scaled :=
  let top := x.numerator * Nat.pow 10 (-exponent).toNat
  let bottom := x.denominator * Nat.pow 10 exponent.toNat
  let below : Scaled := ⟨top / bottom, exponent⟩
  let above : Scaled := ⟨top / bottom + 1, exponent⟩
  match below.readsBackAs x, above.readsBackAs x with
  | false, false => none
  | true, false => some below
  | false, true => some above
  | true, true =>
    match compare (2 * (top % bottom)) bottom, tie with
    | .lt, _ => some below
    | .gt, _ => some above
    | .eq, .upward => some above
    | .eq, .toEven => if below.digits % 2 = 0 then some below else some above

/-- The shortest decimal of a finite magnitude that is not zero. It lies on the coarsest decimal
grid with a point among the reals that round to the value, and is the nearer one of two points next
to the value; it is the exact decimal if no grid of seventeen digits had a point. -/
def shortest (tie : Tie) (x : Binary64) : Scaled :=
  let places := x.places
  let found := (List.range 17).findSome? fun (count : Nat) =>
    x.onGrid? tie (places - 1 - (count : Int))
  match found with
  | some d => d.strip
  | none =>
    Scaled.strip ⟨x.numerator * Nat.pow 5 (-x.unitExponent).toNat, min x.unitExponent 0⟩

end Binary64

/-- The choices of a format that writes floating point numbers. -/
structure NumberStyle where
  /-- The exponents of the leading digit, from and to, that are written without an exponent; with
  no bounds every number is. -/
  positional : Option (Int × Int)
  /-- Whether a whole number has a point and a zero at its end. -/
  pointZero : Bool
  tie : Tie

namespace NumberStyle

def zeros (count : Int) : List Char := List.replicate count.toNat '0'

/-- Digits with the point at its place among them. -/
def layPositional (style : NumberStyle) (digits : List Char) (exponent : Int) : List Char :=
  let count : Int := digits.length
  let places := count + exponent
  if 0 ≤ exponent then
    digits ++ zeros exponent ++ (if style.pointZero then ['.', '0'] else [])
  else if 0 < places then digits.take places.toNat ++ ['.'] ++ digits.drop places.toNat
  else ['0', '.'] ++ zeros (-places) ++ digits

/-- One digit before the point, and the exponent with its sign. -/
def layScientific (digits : List Char) (exponent : Int) : List Char :=
  let leading := (digits.length : Int) + exponent - 1
  let point := if digits.length = 1 then digits else digits.take 1 ++ ['.'] ++ digits.drop 1
  point ++ ['e'] ++ (if leading < 0 then [] else ['+']) ++ intDigits leading

def magnitude (style : NumberStyle) (x : Binary64) : List Char :=
  if x.significand = 0 then if style.pointZero then ['0', '.', '0'] else ['0']
  else
    let d := x.shortest style.tie
    let digits := natDigits d.digits
    let leading := (digits.length : Int) + d.exponent - 1
    match style.positional with
    | none => style.layPositional digits d.exponent
    | some (first, last) =>
      if first ≤ leading ∧ leading ≤ last then style.layPositional digits d.exponent
      else layScientific digits d.exponent

/-- A number of any kind; the missing number has no sign. -/
def render (style : NumberStyle) (x : Binary64) : List Char :=
  if x.isNaN then ['N', 'a', 'N']
  else
    (if x.isNegative then ['-'] else []) ++
      (if x.isInfinite then ['i', 'n', 'f'] else style.magnitude x)

end NumberStyle

/-- Every digit is written out, and whole numbers have no point. -/
def plain : NumberStyle where
  positional := none
  pointZero := false
  tie := .upward

end BootSnapshot.Decimal
