import BootSnapshot.Toml.Number
import BootSnapshot.Toml.Table
import BootSnapshot.Toml.Text

set_option autoImplicit false

namespace BootSnapshot.Toml

/-- What follows blanks, comments and ends of lines; `fuel` bounds the number of lines. -/
def skipLines : Nat → List Char → List Char
  | 0, cs => cs
  | fuel + 1, cs =>
    let behind := skipComment (skipBlanks cs)
    match newline? behind with
    | some rest => skipLines fuel rest
    | none => behind

/-- What follows all empty space here, comments and ends of lines included. -/
def skipSpace (cs : List Char) : List Char := skipLines cs.length cs

/-- How deep arrays and tables may lie in one another, and how many parts a key may have. -/
def maxDepth : Nat := 79

def boundedKey? (cs : List Char) : Option (List String × List Char) :=
  (key? cs).filter fun (parts, _) => parts.length ≤ maxDepth

mutual

/-- A value, and what follows it. `fuel` bounds the number of values and `depth` how deep they may
lie. -/
def valueWithin? : (fuel depth : Nat) → List Char → Option (Value × List Char)
  | 0, _, _ => none
  | fuel + 1, depth, cs =>
    match cs, depth with
    | '[' :: _, 0 => none
    | '[' :: rest, depth + 1 =>
      (itemsWithin? fuel depth rest).map fun (items, rest) => (.array items, rest)
    | '\x7b' :: _, 0 => none
    | '\x7b' :: rest, depth + 1 =>
      match skipBlanks rest with
      | '\x7d' :: rest => some (.table [], rest)
      | rest => (pairsWithin? fuel depth [] rest).map fun (members, rest) =>
        (.table (membersValue members), rest)
    | _, _ =>
      match text? cs with
      | some (text, rest) => some (.scalar (.text (String.ofList text)), rest)
      | none =>
        let (word, rest) := takeWord cs
        (wordValue? word).map (·, rest)

def itemsWithin? : (fuel depth : Nat) → List Char → Option (List Value × List Char)
  | 0, _, _ => none
  | fuel + 1, depth, cs =>
    match skipSpace cs with
    | ']' :: rest => some ([], rest)
    | rest => do
      let (item, rest) ← valueWithin? fuel depth rest
      match skipSpace rest with
      | ',' :: rest =>
        let (items, rest) ← itemsWithin? fuel depth rest
        return (item :: items, rest)
      | ']' :: rest => return ([item], rest)
      | _ => none

def pairsWithin? : (fuel depth : Nat) → Members → List Char → Option (Members × List Char)
  | 0, _, _, _ => none
  | fuel + 1, depth, members, cs => do
    let (key, rest) ← boundedKey? cs
    match rest with
    | '=' :: rest =>
      let (content, rest) ← valueWithin? fuel depth (skipBlanks rest)
      let members ← assign? members content key
      match skipBlanks rest with
      | ',' :: rest => pairsWithin? fuel depth members rest
      | '\x7d' :: rest => return (members, rest)
      | _ => none
    | _ => none

end

inductive Line where
  | table (path : List String)
  | element (path : List String)
  | assignment (key : List String) (content : Value)

def line? (cs : List Char) : Option (Line × List Char) :=
  match cs with
  | '[' :: '[' :: rest =>
    match boundedKey? rest with
    | some (path, ']' :: ']' :: rest) => some (.element path, rest)
    | _ => none
  | '[' :: rest =>
    match boundedKey? rest with
    | some (path, ']' :: rest) => some (.table path, rest)
    | _ => none
  | _ =>
    match boundedKey? cs with
    | some (key, '=' :: rest) =>
      (valueWithin? (rest.length + 1) maxDepth (skipBlanks rest)).map fun (content, rest) =>
        (.assignment key content, rest)
    | _ => none

/-- What follows the end of a line, which may have a comment before it. -/
def endLine? (cs : List Char) : Option (List Char) :=
  let behind := skipComment (skipBlanks cs)
  if behind = [] then some [] else newline? behind

/-- All lines that are not empty; `fuel` bounds their number. -/
def linesWithin? : Nat → List Char → Option (List Line)
  | 0, _ => none
  | fuel + 1, cs =>
    match skipSpace cs with
    | [] => some []
    | rest => do
      let (line, rest) ← line? rest
      let rest ← endLine? rest
      let lines ← linesWithin? fuel rest
      return line :: lines

/-- A document as it grows: the tables, and the path of the one to write to. -/
structure Growth where
  members : Members := []
  current : List String := []

def Growth.addLine? (growth : Growth) : Line → Option Growth
  | .table path => (openTable? growth.members path).map fun members => ⟨members, path⟩
  | .element path => (openElement? growth.members path).map fun members => ⟨members, path⟩
  | .assignment key content =>
    (reach? (assign? · content key) growth.members growth.current).map fun members =>
      { growth with members := members }

/-- A document is a sequence of headers and assignments, one on a line. Values lie in one another
only to a certain depth, and keys have only so many parts. -/
def read? (cs : List Char) : Option Value := do
  let lines ← linesWithin? (cs.length + 1) cs
  let growth ← lines.foldlM Growth.addLine? {}
  return .table (membersValue growth.members)

end BootSnapshot.Toml
