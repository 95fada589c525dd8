import BootSnapshot.Text.Case.Tables
import BootSnapshot.Text.Range

set_option autoImplicit false

namespace BootSnapshot.Text

def asciiLowercase (text : String) : String := String.ofList (text.toList.map Char.toLower)

def isCased (c : Char) : Bool := inRanges casedRanges c

def isCaseIgnorable (c : Char) : Bool := inRanges caseIgnorableRanges c

def smallLetter? (c : Char) : Option Char :=
  (capitalRuns.find? fun (first, last, distance, _) =>
    first ≤ c.toNat && c.toNat ≤ last && (c.toNat - first) % distance = 0).map
      fun (first, _, _, small) => Char.ofNat (small + (c.toNat - first))

/-- The characters that take the place of one. The capital i with a dot keeps its dot. -/
def smallChars (c : Char) : List Char :=
  if c = '\u0130' then ['i', '\u0307']
  else
    match smallLetter? c with
    | some small => [small]
    | none => [c]

/-- Whether the first character that matters is a letter with a case. -/
def touchesCased (cs : List Char) : Bool :=
  (cs.find? fun c => ! isCaseIgnorable c).any isCased

/-- Text in lower case, given the characters before it, last one first. A sigma at the end of a
word has a form of its own. -/
def lowerChars (before : List Char) : List Char → List Char
  | [] => []
  | c :: rest =>
    let small :=
      if c = 'Σ' then [if touchesCased before && ! touchesCased rest then 'ς' else 'σ']
      else smallChars c
    small ++ lowerChars (c :: before) rest

def lowercase (text : String) : String := String.ofList (lowerChars [] text.toList)

end BootSnapshot.Text
