import BootSnapshot.Text.Canonical.Tables

set_option autoImplicit false

namespace BootSnapshot.Text.Canonical

/-- The combining class, zero for a character that marks can attach to. -/
def combiningClass (c : Char) : Nat :=
  match combiningClasses.find? fun (first, last, _) => first ≤ c.toNat && c.toNat ≤ last with
  | some (_, _, cls) => cls
  | none => 0

/-- A Hangul syllable falls into its leading consonant, its vowel and, if any, its final. -/
def decomposeSyllable (code : Nat) : List Nat :=
  let offset := code - 0xAC00
  let leading := 0x1100 + offset / 588
  let vowel := 0x1161 + offset % 588 / 28
  let final := 0x11A7 + offset % 28
  if offset % 28 = 0 then [leading, vowel] else [leading, vowel, final]

/-- The code points of the full decomposition, if the table lists the character. -/
def decomposition? (code : Nat) : Option (List Nat) :=
  if 0xAC00 ≤ code ∧ code < 0xAC00 + 11172 then some (decomposeSyllable code)
  else decompositions.findSome? fun (first, images) =>
    if first ≤ code then images[code - first]? else none

/-- The full decomposition of a character; those below U+00C0 have none but themselves. -/
def decomposeChar (c : Char) : List Char :=
  if c.toNat < 0xC0 then [c]
  else
    match decomposition? c.toNat with
    | some codes => codes.map Char.ofNat
    | none => [c]

def decompose (text : List Char) : List Char := text.flatMap decomposeChar

/-- Puts one character before ordered text, behind the marks of lower class than its own. -/
def place (c : Char) : List Char → List Char
  | [] => [c]
  | next :: rest =>
    if combiningClass next ≠ 0 ∧ combiningClass next < combiningClass c then next :: place c rest
    else c :: next :: rest

/-- Every run of marks in ascending order of class; marks of one class keep their order. -/
def order : List Char → List Char
  | [] => []
  | c :: rest => place c (order rest)

/-- The composite of two Hangul letters or of a syllable and a final, if there is one. -/
def composeSyllable? (first second : Nat) : Option Nat :=
  if 0x1100 ≤ first ∧ first < 0x1113 ∧ 0x1161 ≤ second ∧ second < 0x1176 then
    some (0xAC00 + ((first - 0x1100) * 21 + (second - 0x1161)) * 28)
  else if 0xAC00 ≤ first ∧ first < 0xAC00 + 11172 ∧ (first - 0xAC00) % 28 = 0 ∧
      0x11A7 < second ∧ second < 0x11C3 then
    some (first + (second - 0x11A7))
  else none

def composite? (first second : Char) : Option Char :=
  if second.toNat < 0x300 then none
  else
    match composeSyllable? first.toNat second.toNat with
    | some code => some (Char.ofNat code)
    | none =>
      match compositions.lookup second.toNat with
      | some pairs => (pairs.lookup first.toNat).map Char.ofNat
      | none => none

/-- Whether a mark of the given class cannot reach its base past the last of the marks between. -/
def blocked (last : Option Char) (cls : Nat) : Bool :=
  match last with
  | none => false
  | some mark => cls ≤ combiningClass mark

/-- Composes what follows a base; `between` holds, last one first, the marks the base left out. -/
def composeFrom (base : Char) (between : List Char) : List Char → List Char
  | [] => base :: between.reverse
  | c :: rest =>
    match if blocked between.head? (combiningClass c) then none else composite? base c with
    | some whole => composeFrom whole between rest
    | none =>
      if combiningClass c = 0 then base :: (between.reverse ++ composeFrom c [] rest)
      else composeFrom base (c :: between) rest

/-- Composes ordered text; marks with no base before them stay as they are. -/
def compose : List Char → List Char
  | [] => []
  | c :: rest => if combiningClass c = 0 then composeFrom c [] rest else c :: compose rest

/-- Every character is decomposed in full, marks that follow a character are put in the order of
their combining classes, and then each character takes up the marks that have a composite with it. A
mark is out of reach if one of the same or a higher class stands before it. -/
def composed (text : List Char) : List Char := compose (order (decompose text))

end BootSnapshot.Text.Canonical
