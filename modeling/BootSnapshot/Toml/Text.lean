import BootSnapshot.Decimal.Natural

set_option autoImplicit false

namespace BootSnapshot.Toml

def isBlank (c : Char) : Bool := c = ' ' || c = '\t'

def skipBlanks (cs : List Char) : List Char := cs.dropWhile isBlank

/-- Controls may stand nowhere in a document, but for tabs and the ends of lines. -/
def isControl (c : Char) : Bool := c < ' ' && c ≠ '\t' || c = '\x7f'

def newline? : List Char → Option (List Char)
  | '\n' :: rest => some rest
  | '\r' :: '\n' :: rest => some rest
  | _ => none

/-- What follows a comment, if there is one. -/
def skipComment (cs : List Char) : List Char :=
  match cs with
  | '#' :: rest => rest.dropWhile (! isControl ·)
  | _ => cs

/-- The character that some hexadecimal digits stand for. -/
def codePoint? (digits : List Char) : Option Char :=
  match Decimal.readNat? 16 digits with
  | some code => if code.isValidChar then some (Char.ofNat code) else none
  | none => none

/-- The character that one letter after a backslash stands for. -/
def escaped? (letter : Char) : Option Char :=
  match letter with
  | 'b' => some '\x08'
  | 't' => some '\t'
  | 'n' => some '\n'
  | 'f' => some '\x0c'
  | 'r' => some '\r'
  | '"' => some '"'
  | '\\' => some '\\'
  | _ => none

/-- A read text with one character more in front. -/
def prepend (c : Char) (read : Option (List Char × List Char)) : Option (List Char × List Char) :=
  read.map fun (text, rest) => (c :: text, rest)

/-- A read text with a character in front that may be missing. -/
def prepend? (c : Option Char) (read : Option (List Char × List Char)) :
    Option (List Char × List Char) :=
  c.bind (prepend · read)

/-- A text on one line up to its double quote, with escapes. -/
def basicText? : List Char → Option (List Char × List Char)
  | [] => none
  | '"' :: rest => some ([], rest)
  | '\\' :: 'u' :: a :: b :: c :: d :: rest => prepend? (codePoint? [a, b, c, d]) (basicText? rest)
  | '\\' :: 'U' :: a :: b :: c :: d :: e :: f :: g :: h :: rest =>
    prepend? (codePoint? [a, b, c, d, e, f, g, h]) (basicText? rest)
  | '\\' :: letter :: rest => prepend? (escaped? letter) (basicText? rest)
  | c :: rest => if isControl c then none else prepend c (basicText? rest)

/-- A text on one line up to its single quote, as it stands. -/
def literalText? : List Char → Option (List Char × List Char)
  | [] => none
  | '\x27' :: rest => some ([], rest)
  | c :: rest => if isControl c then none else prepend c (literalText? rest)

/-- Whether a backslash at the end of a line is in force. -/
inductive LineFold where
  | none
  /-- The backslash was read, the end of the line was not. -/
  | awaited
  /-- All white space up to the next other character counts for nothing. -/
  | inForce

/-- A text over several lines up to its three double quotes, with escapes. Two more quotes may
stand before these. -/
def multilineText? (fold : LineFold) (cs : List Char) : Option (List Char × List Char) :=
  match fold with
  | .awaited =>
    match cs with
    | '\n' :: rest => multilineText? .inForce rest
    | '\r' :: '\n' :: rest => multilineText? .inForce rest
    | ' ' :: rest => multilineText? .awaited rest
    | '\t' :: rest => multilineText? .awaited rest
    | _ => none
  | _ =>
    let folded := match fold with | .inForce => true | _ => false
    match cs with
    | [] => none
    | '"' :: '"' :: '"' :: '"' :: '"' :: rest => some (['"', '"'], rest)
    | '"' :: '"' :: '"' :: '"' :: rest => some (['"'], rest)
    | '"' :: '"' :: '"' :: rest => some ([], rest)
    | '\n' :: rest =>
      if folded then multilineText? .inForce rest else prepend '\n' (multilineText? .none rest)
    | '\r' :: '\n' :: rest =>
      if folded then multilineText? .inForce rest else prepend '\n' (multilineText? .none rest)
    | '\\' :: 'u' :: a :: b :: c :: d :: rest =>
      prepend? (codePoint? [a, b, c, d]) (multilineText? .none rest)
    | '\\' :: 'U' :: a :: b :: c :: d :: e :: f :: g :: h :: rest =>
      prepend? (codePoint? [a, b, c, d, e, f, g, h]) (multilineText? .none rest)
    | '\\' :: letter :: rest =>
      if isBlank letter || letter = '\n' || letter = '\r' then
        multilineText? .awaited (letter :: rest)
      else prepend? (escaped? letter) (multilineText? .none rest)
    | c :: rest =>
      if folded && isBlank c then multilineText? .inForce rest
      else if isControl c then none
      else prepend c (multilineText? .none rest)
termination_by cs.length

/-- A text over several lines up to its three single quotes, as it stands. -/
def multilineLiteral? : List Char → Option (List Char × List Char)
  | [] => none
  | '\x27' :: '\x27' :: '\x27' :: '\x27' :: '\x27' :: rest => some (['\x27', '\x27'], rest)
  | '\x27' :: '\x27' :: '\x27' :: '\x27' :: rest => some (['\x27'], rest)
  | '\x27' :: '\x27' :: '\x27' :: rest => some ([], rest)
  | '\n' :: rest => prepend '\n' (multilineLiteral? rest)
  | '\r' :: '\n' :: rest => prepend '\n' (multilineLiteral? rest)
  | c :: rest => if isControl c then none else prepend c (multilineLiteral? rest)

/-- What follows a line end directly after the opening quotes of a text over several lines. -/
def skipFirstNewline (cs : List Char) : List Char := (newline? cs).getD cs

/-- A text in any of the four forms, if one begins here. -/
def text? (cs : List Char) : Option (List Char × List Char) :=
  match cs with
  | '"' :: '"' :: '"' :: rest => multilineText? .none (skipFirstNewline rest)
  | '"' :: rest => basicText? rest
  | '\x27' :: '\x27' :: '\x27' :: rest => multilineLiteral? (skipFirstNewline rest)
  | '\x27' :: rest => literalText? rest
  | _ => none

def isKeyChar (c : Char) : Bool := c.isAlphanum || c = '_' || c = '-'

def keyPart? (cs : List Char) : Option (String × List Char) :=
  match cs with
  | '"' :: rest => (basicText? rest).map fun (text, rest) => (String.ofList text, rest)
  | '\x27' :: rest => (literalText? rest).map fun (text, rest) => (String.ofList text, rest)
  | _ =>
    let bare := cs.takeWhile isKeyChar
    if bare.isEmpty then none else some (String.ofList bare, cs.drop bare.length)

/-- A key of parts with points between them; `fuel` bounds their number. -/
def keyWithin? : Nat → List Char → Option (List String × List Char)
  | 0, _ => none
  | fuel + 1, cs => do
    let (part, rest) ← keyPart? (skipBlanks cs)
    match skipBlanks rest with
    | '.' :: rest =>
      let (parts, rest) ← keyWithin? fuel rest
      return (part :: parts, rest)
    | rest => return ([part], rest)

/-- A key of parts with points between them, and the blanks around it. -/
def key? (cs : List Char) : Option (List String × List Char) := keyWithin? (cs.length + 1) cs

end BootSnapshot.Toml
