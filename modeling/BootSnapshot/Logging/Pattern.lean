import BootSnapshot.Decimal.Natural
import BootSnapshot.Text.Alphanumeric

set_option autoImplicit false

namespace BootSnapshot.Logging.Pattern

inductive Escape where
  | literal (c : Char)
  /-- A set of characters. -/
  | set
  /-- The beginning or the end of the text. -/
  | edge

/-- Letters that stand for one control each. -/
def controlLetters : List (Char × Char) :=
  [('a', '\x07'), ('f', '\x0c'), ('t', '\t'), ('n', '\n'), ('r', '\r'), ('v', '\x0b')]

/-- A character given by a fixed count of hexadecimal digits, and what follows them. -/
def hexChar? (count : Nat) (cs : List Char) : Option (Escape × List Char) :=
  if cs.length < count then none
  else
    (Decimal.readNat? 16 (cs.take count)).bind fun code =>
      if code.isValidChar then some (.literal (Char.ofNat code), cs.drop count) else none

/-- An escape given from behind its backslash on, and what follows it. -/
def escape? (cs : List Char) : Option (Escape × List Char) :=
  match cs with
  | [] => none
  | c :: rest =>
    if c = 'x' then hexChar? 2 rest
    else if c = 'u' then hexChar? 4 rest
    else if c = 'U' then hexChar? 8 rest
    else if c = 'p' ∨ c = 'P' then
      match rest with
      | letter :: rest =>
        if letter.toUpper ∈ ['L', 'M', 'N', 'P', 'S', 'Z', 'C'] then some (.set, rest) else none
      | [] => none
    else if c ∈ ['d', 's', 'w', 'D', 'S', 'W'] then some (.set, rest)
    else if c ∈ ['A', 'z'] then some (.edge, rest)
    else
      match controlLetters.lookup c with
      | some control => some (.literal control, rest)
      | none =>
        if c.toNat < 128 ∧ ! c.isAlphanum ∧ c ≠ '<' ∧ c ≠ '>' then some (.literal c, rest)
        else none

/-- One member of a set, which is a character or, by an escape, a set, and what follows it. -/
def setItem? (cs : List Char) : Option (Option Char × List Char) :=
  match cs with
  | [] => none
  | c :: rest =>
    if c ≠ '\\' then some (some c, rest)
    else
      match escape? rest with
      | some (.literal c, rest) => some (some c, rest)
      | some (.set, rest) => some (none, rest)
      | _ => none

/-- What follows the beginning of a set: a negation, hyphens, and a bracket that closes nothing. -/
def enterSet (cs : List Char) : List Char :=
  let inner := if cs.head? = some '^' then cs.drop 1 else cs
  let behind := inner.dropWhile (· = '-')
  if behind.length = inner.length ∧ behind.head? = some ']' then behind.drop 1 else behind

/-- What follows a set that is entered; `depth` counts the sets that are open around, and `fuel`
bounds the number of members. -/
def afterSet? : (fuel depth : Nat) → List Char → Option (List Char)
  | 0, _, _ => none
  | fuel + 1, depth, cs =>
    match cs with
    | [] => none
    | '[' :: rest => afterSet? fuel (depth + 1) (enterSet rest)
    | ']' :: rest => if depth = 0 then some rest else afterSet? fuel (depth - 1) rest
    | '&' :: '&' :: rest => afterSet? fuel depth rest
    | '-' :: '-' :: rest => afterSet? fuel depth rest
    | '~' :: '~' :: rest => afterSet? fuel depth rest
    | _ =>
      match setItem? cs with
      | none => none
      | some (first, '-' :: next :: rest) =>
        if next = ']' ∨ next = '-' then afterSet? fuel depth ('-' :: next :: rest)
        else
          match first, setItem? (next :: rest) with
          | some first, some (some last, rest) =>
            if first ≤ last then afterSet? fuel depth rest else none
          | _, _ => none
      | some (_, rest) => afterSet? fuel depth rest

/-- Whether a word turns on modes, and behind a hyphen turns off others. -/
def areFlags (word : List Char) : Bool :=
  let letters := word.filter (· ≠ '-')
  letters.all (· ∈ ['i', 'm', 's', 'U', 'u', 'R', 'x']) &&
    letters.eraseDups.length = letters.length &&
    word.length ≤ letters.length + 1 && word.getLast? ≠ some '-'

def isGroupName (word : List Char) : Bool :=
  match word with
  | [] => false
  | first :: rest =>
    (first = '_' || Text.isAlphanumeric first && ! first.isDigit) &&
      rest.all fun c => Text.isAlphanumeric c || c ∈ ['_', '.', '[', ']']

def afterGroupName? (cs : List Char) : Option (List Char) :=
  let word := cs.takeWhile (· ≠ '>')
  if isGroupName word ∧ word.length < cs.length then some (cs.drop (word.length + 1)) else none

/-- What follows the beginning of a group, given from behind its parenthesis on, and whether the
group is open; one that only turns modes on and off is not. -/
def enterGroup? (cs : List Char) : Option (Bool × List Char) :=
  match cs with
  | '?' :: 'P' :: '<' :: rest => (afterGroupName? rest).map (true, ·)
  | '?' :: '<' :: rest => (afterGroupName? rest).map (true, ·)
  | '?' :: rest =>
    let word := rest.takeWhile fun c => c ≠ ')' && c ≠ ':'
    if ! areFlags word then none
    else
      match rest.drop word.length with
      | ':' :: behind => some (true, behind)
      | _ :: behind => if word = [] then none else some (false, behind)
      | [] => none
  | _ => some (true, cs)

/-- Whether the rest of a pattern is well-formed inside so many open groups; `canRepeat` tells
whether a repetition mark has something to repeat, and `fuel` bounds the number of steps. -/
def isWellFormedWithin : (fuel depth : Nat) → (canRepeat : Bool) → List Char → Bool
  | 0, _, _, _ => false
  | fuel + 1, depth, canRepeat, cs =>
    match cs with
    | [] => depth = 0
    | '\\' :: rest =>
      (escape? rest).any fun (_, behind) => isWellFormedWithin fuel depth true behind
    | '[' :: rest =>
      (afterSet? cs.length 0 (enterSet rest)).any (isWellFormedWithin fuel depth true)
    | '(' :: rest =>
      (enterGroup? rest).any fun (isOpen, behind) =>
        isWellFormedWithin fuel (if isOpen then depth + 1 else depth) false behind
    | ')' :: rest => depth ≠ 0 && isWellFormedWithin fuel (depth - 1) true rest
    | '|' :: rest => isWellFormedWithin fuel depth false rest
    | '\x7b' :: _ => false
    | c :: rest =>
      (canRepeat || ! (c ∈ ['*', '+', '?'])) && isWellFormedWithin fuel depth true rest

/-- Groups and sets must be closed, repetition marks need something to repeat, and only certain
escapes have a meaning. Counted repetition needs a brace that no pattern here can hold, and the
edges of words are not supported. -/
def isWellFormed (cs : List Char) : Bool := isWellFormedWithin (cs.length + 1) 0 false cs

end BootSnapshot.Logging.Pattern
