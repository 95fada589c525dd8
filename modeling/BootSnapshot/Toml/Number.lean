import BootSnapshot.Decimal.Shortest
import BootSnapshot.Text.Pieces
import BootSnapshot.Toml.Value

set_option autoImplicit false

namespace BootSnapshot.Toml

def isWordChar (c : Char) : Bool :=
  c.isAlphanum || c = '_' || c = '-' || c = '+' || c = '.' || c = ':'

def bareDigits? (isDigit : Char → Bool) (cs : List Char) : Option (List Char) :=
  let groups := Text.pieces '_' cs
  if groups.all (fun group => ! group.isEmpty && group.all isDigit) then some groups.flatten
  else none

/-- A sign in front, and the rest. -/
def takeSign (cs : List Char) : List Char × List Char :=
  match cs with
  | '+' :: rest => (['+'], rest)
  | '-' :: rest => (['-'], rest)
  | _ => ([], cs)

/-- The digits of a whole number, which do not begin with a zero unless it is the only one. -/
def wholeDigits? (cs : List Char) : Option (List Char) :=
  match bareDigits? Char.isDigit cs with
  | some ('0' :: _ :: _) => none
  | digits => digits

def decimalInteger? (cs : List Char) : Option Int :=
  let (sign, rest) := takeSign cs
  (wholeDigits? rest).bind fun digits => Decimal.readSigned? (sign ++ digits)

def baseInteger? (base : Nat) (cs : List Char) : Option Int :=
  ((bareDigits? (fun c => (Decimal.digitValue? base c).isSome) cs).bind
    (Decimal.readUnsigned? base Decimal.signedLimit)).map fun n => (n : Int)

/-- A whole number of 64 bits in any base. -/
def integer? (cs : List Char) : Option Int :=
  match cs with
  | '0' :: 'x' :: rest => baseInteger? 16 rest
  | '0' :: 'o' :: rest => baseInteger? 8 rest
  | '0' :: 'b' :: rest => baseInteger? 2 rest
  | _ => decimalInteger? cs

def exponent? (cs : List Char) : Option (List Char) :=
  let (sign, rest) := takeSign cs
  (bareDigits? Char.isDigit rest).map (sign ++ ·)

def isExponentMark (c : Char) : Bool := c = 'e' || c = 'E'

/-- The characters of a number with a fraction or an exponent, without underscores. -/
def realChars? (cs : List Char) : Option (List Char) := do
  let (sign, rest) := takeSign cs
  let mantissa := rest.takeWhile (! isExponentMark ·)
  let power ← match rest.drop mantissa.length with
    | [] => some []
    | _ :: behind => (exponent? behind).map ('e' :: ·)
  match Text.pieces '.' mantissa with
  | [whole] => if power = [] then none else (wholeDigits? whole).map fun w => sign ++ w ++ power
  | [whole, fraction] =>
    let whole ← wholeDigits? whole
    let fraction ← bareDigits? Char.isDigit fraction
    return sign ++ whole ++ ['.'] ++ fraction ++ power
  | _ => none

/-- A floating point number; one too large for the format is none. -/
def real? (cs : List Char) : Option Decimal.Binary64 :=
  let (sign, rest) := takeSign cs
  if rest = ['i', 'n', 'f'] then some (.infinity (sign = ['-']))
  else if rest = ['n', 'a', 'n'] then some (.nan (sign = ['-']))
  else
    ((realChars? cs).bind Decimal.readReal?).filter fun x => ! x.isInfinite || x.isNegative

def wordValue? (word : List Char) : Option Value :=
  if word = ['t', 'r', 'u', 'e'] then some (.scalar (.bool true))
  else if word = ['f', 'a', 'l', 's', 'e'] then some (.scalar (.bool false))
  else
    match integer? word with
    | some n => some (.scalar (.integer n))
    | none =>
      match real? word with
      | some x => some (.scalar (.real x))
      | none => (Moment.read? .bare word).map .moment

/-- A word and what follows it. A time of day may follow a date after one space. -/
def takeWord (cs : List Char) : List Char × List Char :=
  let word := cs.takeWhile isWordChar
  let rest := cs.drop word.length
  match Moment.date? word, rest with
  | some (_, []), ' ' :: time =>
    let second := time.takeWhile isWordChar
    if second.head?.any Char.isDigit then (word ++ ' ' :: second, time.drop second.length)
    else (word, rest)
  | _, _ => (word, rest)

end BootSnapshot.Toml
