import BootSnapshot.Text.Moment

set_option autoImplicit false

namespace BootSnapshot.Toml

structure MomentBounds where
  lastHour : Nat
  lastOffsetHour : Nat
  lastOffsetMinute : Nat

/-- The bounds of moments that stand for themselves. -/
def MomentBounds.bare : MomentBounds := ⟨23, 23, 59⟩

/-- The bounds of moments that are given as texts. -/
def MomentBounds.quoted : MomentBounds := ⟨24, 24, 99⟩

namespace Moment

/-- The fraction of a second without zeros at its end, as far as nanoseconds go. -/
def fractionText (digits : List Char) : List Char :=
  match ((digits.take 9).reverse.dropWhile (· = '0')).reverse with
  | [] => []
  | kept => '.' :: kept

def timeOfDay? (bounds : MomentBounds) (cs : List Char) : Option (List Char × List Char) :=
  match cs with
  | h1 :: h2 :: ':' :: m1 :: m2 :: ':' :: s1 :: s2 :: rest =>
    match Text.Moment.number? [h1, h2], Text.Moment.number? [m1, m2],
      Text.Moment.number? [s1, s2], Text.Moment.afterFraction? rest with
    | some hour, some minute, some second, some behind =>
      if hour ≤ bounds.lastHour ∧ minute ≤ 59 ∧ second ≤ 60 then
        let fraction := (rest.take (rest.length - behind.length)).drop 1
        some ([h1, h2, ':', m1, m2, ':', s1, s2] ++ fractionText fraction, behind)
      else none
    | _, _, _, _ => none
  | _ => none

def date? (cs : List Char) : Option (List Char × List Char) :=
  match cs with
  | y1 :: y2 :: y3 :: y4 :: '-' :: m1 :: m2 :: '-' :: d1 :: d2 :: rest =>
    match Text.Moment.number? [y1, y2, y3, y4], Text.Moment.number? [m1, m2],
      Text.Moment.number? [d1, d2] with
    | some year, some month, some day =>
      if 1 ≤ month ∧ month ≤ 12 ∧ 1 ≤ day ∧ day ≤ Text.Moment.daysInMonth year month then
        some ([y1, y2, y3, y4, '-', m1, m2, '-', d1, d2], rest)
      else none
    | _, _, _ => none
  | _ => none

/-- The text of an offset of so many minutes; no offset lies to the west of zero minutes. -/
def offsetText (isWest : Bool) (minutes : Nat) : List Char :=
  (if isWest ∧ minutes ≠ 0 then '-' else '+') ::
    (Text.Moment.padded 2 (minutes / 60) ++ ":" ++ Text.Moment.padded 2 (minutes % 60)).toList

/-- An offset from universal time, of a day at the most. -/
def offset? (bounds : MomentBounds) (cs : List Char) : Option (List Char) :=
  match cs with
  | [] => some []
  | ['Z'] => some ['Z']
  | ['z'] => some ['Z']
  | [sign, h1, h2, ':', m1, m2] =>
    match Text.Moment.number? [h1, h2], Text.Moment.number? [m1, m2] with
    | some hours, some minutes =>
      if (sign = '+' ∨ sign = '-') ∧ hours ≤ bounds.lastOffsetHour ∧
          minutes ≤ bounds.lastOffsetMinute ∧ hours * 60 + minutes ≤ 1440 then
        some (offsetText (sign = '-') (hours * 60 + minutes))
      else none
    | _, _ => none
  | _ => none

def read? (bounds : MomentBounds) (cs : List Char) : Option (List Char) :=
  match date? cs with
  | some (date, []) => some date
  | some (date, separator :: rest) =>
    if separator = 'T' ∨ separator = 't' ∨ separator = ' ' then do
      let (time, rest) ← timeOfDay? bounds rest
      let offset ← offset? bounds rest
      return date ++ ['T'] ++ time ++ offset
    else none
  | none =>
    match timeOfDay? bounds cs with
    | some (time, []) => some time
    | _ => none

end Moment
end BootSnapshot.Toml
