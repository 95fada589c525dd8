import BootSnapshot.Json.Number

set_option autoImplicit false

namespace BootSnapshot.Json

def isBlank (c : Char) : Bool := c = ' ' || c = '\t' || c = '\n' || c = '\r'

def skipBlanks (cs : List Char) : List Char := cs.dropWhile isBlank

/-- How deep values may lie in one another. -/
def maxDepth : Nat := 127

/-- The character that one letter after a backslash stands for. -/
def escaped? (letter : Char) : Option Char :=
  match letter with
  | '"' => some '"'
  | '\\' => some '\\'
  | '/' => some '/'
  | 'b' => some '\x08'
  | 'f' => some '\x0c'
  | 'n' => some '\n'
  | 'r' => some '\r'
  | 't' => some '\t'
  | _ => none

/-- The unit of sixteen bits that four digits stand for. -/
def unit? (a b c d : Char) : Option Nat := Decimal.readNat? 16 [a, b, c, d]

/-- The character of a pair of units, of which each alone is no character. -/
def pairChar? (high low : Nat) : Option Char :=
  if 0xD800 ≤ high ∧ high < 0xDC00 ∧ 0xDC00 ≤ low ∧ low < 0xE000 then
    some (Char.ofNat (0x10000 + (high - 0xD800) * 0x400 + (low - 0xDC00)))
  else none

/-- A read text with a character in front. -/
def prepend? (c : Option Char) (read : Option (List Char × List Char)) :
    Option (List Char × List Char) :=
  c.bind fun c => read.map fun (chars, rest) => (c :: chars, rest)

/-- A text up to its closing quote. -/
def textChars? : List Char → Option (List Char × List Char)
  | [] => none
  | '"' :: rest => some ([], rest)
  | '\\' :: 'u' :: a :: b :: c :: d :: rest =>
    match unit? a b c d with
    | none => none
    | some high =>
      if high.isValidChar then prepend? (some (Char.ofNat high)) (textChars? rest)
      else
        match rest with
        | '\\' :: 'u' :: e :: f :: g :: h :: rest =>
          prepend? ((unit? e f g h).bind (pairChar? high)) (textChars? rest)
        | _ => none
  | '\\' :: letter :: rest => prepend? (escaped? letter) (textChars? rest)
  | c :: rest => if c < ' ' then none else prepend? (some c) (textChars? rest)

def isNumberChar (c : Char) : Bool :=
  c.isDigit || c = '-' || c = '+' || c = '.' || c = 'e' || c = 'E'

/-- A word that stands for itself. -/
def word? (cs : List Char) : Option (Json × List Char) :=
  match cs with
  | 't' :: 'r' :: 'u' :: 'e' :: rest => some (.bool true, rest)
  | 'f' :: 'a' :: 'l' :: 's' :: 'e' :: rest => some (.bool false, rest)
  | 'n' :: 'u' :: 'l' :: 'l' :: rest => some (.null, rest)
  | _ =>
    let word := cs.takeWhile isNumberChar
    (number? word).map (·, cs.drop word.length)

mutual

/-- A value, and what follows it; `fuel` bounds the number of values and `depth` how deep they may
lie. -/
def valueWithin? : (fuel depth : Nat) → List Char → Option (Json × List Char)
  | 0, _, _ => none
  | fuel + 1, depth, cs =>
    match skipBlanks cs, depth with
    | '"' :: rest, _ =>
      (textChars? rest).map fun (chars, rest) => (.text (String.ofList chars), rest)
    | '[' :: rest, depth + 1 =>
      match skipBlanks rest with
      | ']' :: rest => some (.array [], rest)
      | rest => (itemsWithin? fuel depth rest).map fun (items, rest) => (.array items, rest)
    | '\x7b' :: rest, depth + 1 =>
      match skipBlanks rest with
      | '\x7d' :: rest => some (.object [], rest)
      | rest => (membersWithin? fuel depth [] rest).map fun (members, rest) =>
        (.object members, rest)
    | rest, _ => word? rest

def itemsWithin? : (fuel depth : Nat) → List Char → Option (List Json × List Char)
  | 0, _, _ => none
  | fuel + 1, depth, cs => do
    let (item, rest) ← valueWithin? fuel depth cs
    match skipBlanks rest with
    | ',' :: rest =>
      let (items, rest) ← itemsWithin? fuel depth rest
      return (item :: items, rest)
    | ']' :: rest => return ([item], rest)
    | _ => none

def membersWithin? :
    (fuel depth : Nat) → List (String × Json) → List Char →
      Option (List (String × Json) × List Char)
  | 0, _, _, _ => none
  | fuel + 1, depth, members, cs =>
    match skipBlanks cs with
    | '"' :: rest => do
      let (key, rest) ← textChars? rest
      match skipBlanks rest with
      | ':' :: rest =>
        let (value, rest) ← valueWithin? fuel depth rest
        let members := putMember (String.ofList key) value members
        match skipBlanks rest with
        | ',' :: rest => membersWithin? fuel depth members rest
        | '\x7d' :: rest => return (members, rest)
        | _ => none
      | _ => none
    | _ => none

end

/-- Of members with one key the last counts, and values lie in one another only to a certain depth.
-/
def read? (cs : List Char) : Option Json :=
  match valueWithin? (cs.length + 1) maxDepth cs with
  | some (value, rest) => if (skipBlanks rest).isEmpty then some value else none
  | none => none

end BootSnapshot.Json
