import BootSnapshot.Text.Emoji
import BootSnapshot.Text.Ligature

set_option autoImplicit false

namespace BootSnapshot.Text

/-- What a character that shows nothing asks of the character before it. -/
inductive Selector where
  /-- To be a picture. -/
  | picture
  /-- To be plain text. -/
  | text
  /-- To be a quotation mark of one or, if it is wide, of two columns. -/
  | quotation (isWide : Bool)
deriving DecidableEq, Repr

def Selector.ofChar? (c : Char) : Option Selector :=
  if c = '\uFE0F' then some picture
  else if c = '\uFE0E' then some text
  else if c = '\uFE00' ∨ c = '\uFE02' then some (quotation false)
  else if c = '\uFE01' then some (quotation true)
  else none

/-- What a text begins with, as far as the character before it depends on it. -/
inductive Start where
  | other
  | lineFeed
  | emoji (start : Emoji.Start)
  | letter (start : Ligature.Start)
deriving DecidableEq, Repr

namespace Start

/-- What a text begins with if it begins with the given character. -/
def ofChar (c : Char) : Start :=
  match Emoji.Start.ofChar? c, Ligature.Start.ofChar? c with
  | some start, _ => emoji start
  | none, some start => letter start
  | none, none => other

/-- Whether a selector can stand between this and the character before it. -/
def admits (kind : Selector) : Start → Bool
  | emoji start => kind = .picture && start.admitsSelector
  | letter start => start.admitsSelector
  | _ => false

/-- The columns that a character adds in front of a text and what the text then begins with. -/
def put (c : Char) (start : Start) : Int × Start :=
  let joined : Option (Int × Start) :=
    match start with
    | emoji next => (next.put? c).map fun (columns, next) => (columns, emoji next)
    | letter next =>
      (next.put? c).map fun (columns, next) => (columns, next.elim other letter)
    | _ => none
  joined.getD (charWidth c, ofChar c)

end Start

/-- A text that is read from its end: its columns, what it begins with, and the selector before
that. -/
structure Tail where
  columns : Int
  start : Start
  selector? : Option Selector
deriving DecidableEq, Repr

namespace Tail

def empty : Tail := ⟨0, .other, none⟩

/-- What the text begins with for a character that its selector does not concern. Between the parts
of an emoji a selector is no longer passed over. -/
def passed (tail : Tail) : Start :=
  match tail.selector?, tail.start with
  | some _, .emoji _ => .other
  | _, start => start

def select (kind : Selector) (tail : Tail) : Tail :=
  let start := tail.passed
  ⟨tail.columns, if start.admits kind then start else .other, some kind⟩

/-- Whether the text begins with a selector of pictures before a part of an emoji. -/
def joinsPicture (tail : Tail) : Bool :=
  match tail.start with
  | .emoji _ => true
  | _ => false

/-- The columns that the selector of the text gives to a character before it, and what the text
then begins with. -/
def selected? (c : Char) (tail : Tail) : Option (Nat × Start) :=
  match tail.selector? with
  | some .picture =>
    if inRanges Emoji.selectableRanges c then
      some (if tail.joinsPicture then 0 else 2, .emoji .picture)
    else none
  | some .text => if inRanges Emoji.textualRanges c then some (1, .other) else none
  | some (.quotation isWide) =>
    if c ∈ ['‘', '’', '“', '”'] then some (if isWide then 2 else 1, .other) else none
  | none => none

/-- The text with a character before it. A line break of two characters takes the column of one, as
do controls, and up to U+00A0 a character depends on nothing else than a selector. -/
def put (c : Char) (tail : Tail) : Tail :=
  match tail.selected? c with
  | some (columns, start) => ⟨tail.columns + columns, start, none⟩
  | none =>
    if c = '\n' then ⟨tail.columns + 1, .lineFeed, none⟩
    else if c = '\r' ∧ tail.passed = .lineFeed then ⟨tail.columns, .other, none⟩
    else if c ≤ '\u00A0' then ⟨tail.columns + 1, .other, none⟩
    else
      match Selector.ofChar? c with
      | some kind => tail.select kind
      | none =>
        let (columns, start) := tail.passed.put c
        ⟨tail.columns + columns, start, none⟩

end Tail

def charsWidth (text : List Char) : Nat := (text.foldr Tail.put Tail.empty).columns.toNat

/-- An emoji of several characters takes two columns, and letters that are written as one take the
columns of one. The text is read from its end: what it begins with decides on the columns of the
character before it. -/
def width (text : String) : Nat := charsWidth text.toList

end BootSnapshot.Text
