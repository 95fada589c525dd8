import BootSnapshot.Text.Column

set_option autoImplicit false
set_option maxRecDepth 10000

namespace BootSnapshot.Text.Ligature

/-- Ranges of the characters without a column that part the letters of Arabic around them. -/
def partingRanges : List (Nat × Nat) := [
  (0x605, 0x605), (0x890, 0x891), (0x8E2, 0x8E2), (0x9BE, 0x9BE), (0x9D7, 0x9D7), (0xB3E, 0xB3E),
  (0xB57, 0xB57), (0xBBE, 0xBBE), (0xBD7, 0xBD7), (0xCC0, 0xCC0), (0xCC2, 0xCC2), (0xCC7, 0xCC8),
  (0xCCA, 0xCCB), (0xCD5, 0xCD6), (0xD3E, 0xD3E), (0xD4E, 0xD4E), (0xD57, 0xD57), (0xDCF, 0xDCF),
  (0xDDF, 0xDDF), (0x1160, 0x11FF), (0x1715, 0x1715), (0x1734, 0x1734), (0x180E, 0x180E),
  (0x1B35, 0x1B35), (0x1B3B, 0x1B3B), (0x1B3D, 0x1B3D), (0x1B43, 0x1B44), (0x1BAA, 0x1BAA),
  (0x1BF2, 0x1BF3), (0x200C, 0x200D), (0x2065, 0x2069), (0x302E, 0x302F), (0x3164, 0x3164),
  (0xA8FA, 0xA8FA), (0xA953, 0xA953), (0xA9C0, 0xA9C0), (0xD7B0, 0xD7C6), (0xD7CB, 0xD7FB),
  (0xFF9E, 0xFFA0), (0xFFF0, 0xFFF8), (0x111C0, 0x111C0), (0x111C2, 0x111C3), (0x11235, 0x11235),
  (0x1133E, 0x1133E), (0x1134D, 0x1134D), (0x11357, 0x11357), (0x113B8, 0x113B8),
  (0x113C2, 0x113C2), (0x113C5, 0x113C5), (0x113C7, 0x113C9), (0x113CF, 0x113CF),
  (0x113D1, 0x113D1), (0x114B0, 0x114B0), (0x114BD, 0x114BD), (0x115AF, 0x115AF),
  (0x116B6, 0x116B6), (0x11930, 0x11930), (0x1193D, 0x1193D), (0x1193F, 0x1193F),
  (0x11941, 0x11941), (0x11A3A, 0x11A3A), (0x11A84, 0x11A89), (0x11D46, 0x11D46),
  (0x11F02, 0x11F02), (0x11F41, 0x11F41), (0x16FF0, 0x16FF1), (0x1D165, 0x1D166),
  (0x1D16D, 0x1D172), (0xE0000, 0xE0000), (0xE0002, 0xE001F), (0xE0080, 0xE00FF),
  (0xE01F0, 0xE0FFF)]

def alefRanges : List (Nat × Nat) := [
  (0x622, 0x623), (0x625, 0x625), (0x627, 0x627), (0x671, 0x673), (0x675, 0x675), (0x773, 0x774),
  (0x870, 0x882)]

/-- Ranges of the forms of the letter lam, which are written as one with an alef after them. -/
def lamRanges : List (Nat × Nat) := [
  (0x644, 0x644), (0x6B5, 0x6B8), (0x76A, 0x76A), (0x8A6, 0x8A6), (0x8C7, 0x8C7)]

/-- Ranges of the Khmer letters that are written under another after the sign of stacking. -/
def stackableRanges : List (Nat × Nat) := [
  (0x1780, 0x1782), (0x1784, 0x1787), (0x1789, 0x178C), (0x178E, 0x1793), (0x1795, 0x1798),
  (0x179B, 0x179D), (0x17A0, 0x17A0), (0x17A2, 0x17A2), (0x17A7, 0x17A7), (0x17AB, 0x17AC),
  (0x17AF, 0x17AF)]

def tifinaghRanges : List (Nat × Nat) := [(0x2D31, 0x2D65), (0x2D6F, 0x2D6F)]

/-- Ranges of the Lisu tones that come first of two. -/
def firstToneRanges : List (Nat × Nat) := [(0xA4F8, 0xA4FB)]

/-- Ranges of the Lisu tones that come second of two. -/
def secondToneRanges : List (Nat × Nat) := [(0xA4FC, 0xA4FD)]

/-- Ranges of the characters that can stand within a sequence and leave it whole. -/
def withinRanges : List (Nat × Nat) := [
  (0x34F, 0x34F), (0x17B4, 0x17B5), (0x180B, 0x180D), (0x180F, 0x180F), (0x200D, 0x200D),
  (0xFE00, 0xFE0F), (0xE0100, 0xE01EF)]

def joiner : Char := '\u200D'

/-- What a text begins with, if it is of use to a letter before it. Some letters have to be tied by
a joiner, and the state tells whether one stands before the letter. -/
inductive Start where
  | alef
  | lamed (isJoined : Bool)
  | ya (isJoined : Bool)
  /-- The Buginese vowel i before a joined ya. -/
  | vowelYa
  | tifinagh (isJoined : Bool)
  /-- The sign of stacking before a consonant of Tifinagh. -/
  | stackedTifinagh
  | secondTone
  | orkhonI (isJoined : Bool)
  | stackable
  /-- The Kirat Rai vowel e. -/
  | kiratE
  /-- The Kirat Rai vowel ai, which is spelled as e twice too. -/
  | kiratAi
deriving DecidableEq, Repr

namespace Start

def ofChar? (c : Char) : Option Start :=
  if inRanges alefRanges c then some alef
  else if c = '\u05DC' then some (lamed false)
  else if c = '\u1A10' then some (ya false)
  else if inRanges tifinaghRanges c then some (tifinagh false)
  else if inRanges secondToneRanges c then some secondTone
  else if c = Char.ofNat 0x10C03 then some (orkhonI false)
  else if inRanges stackableRanges c then some stackable
  else if c = Char.ofNat 0x16D67 then some kiratE
  else if c = Char.ofNat 0x16D68 then some kiratAi
  else none

/-- Whether a selector can stand before this without parting it from the letter before. -/
def admitsSelector : Start → Bool
  | kiratE => false
  | kiratAi => false
  | _ => true

/-- Whether the characters that leave a sequence whole can stand before this. -/
def admitsWithin : Start → Bool
  | alef => false
  | start => start.admitsSelector

def join : Start → Start
  | lamed _ => lamed true
  | ya _ => ya true
  | tifinagh _ => tifinagh true
  | orkhonI _ => orkhonI true
  | start => start

/-- Whether a character takes no column and leaves an alef tied to the letters before it. -/
def leavesAlef (c : Char) : Bool := charWidth c = 0 && !inRanges partingRanges c

/-- The columns that a letter adds in front of a text and what the text then begins with, if the
letter is written as one with the letter that the text begins with. -/
def putLetter? (c : Char) : Start → Option (Int × Option Start)
  | alef =>
    if inRanges lamRanges c then some (0, none)
    else if leavesAlef c then some (0, some alef)
    else none
  | lamed true => if c = '\u05D0' then some (0, none) else none
  | ya true => if c = '\u1A17' then some (0, some vowelYa) else none
  | vowelYa => if c = '\u1A15' then some (0, none) else none
  | tifinagh isJoined =>
    if c = '\u2D7F' then some (1, some stackedTifinagh)
    else if isJoined && inRanges tifinaghRanges c then some (0, none)
    else none
  | stackedTifinagh => if inRanges tifinaghRanges c then some (-1, none) else none
  | secondTone => if inRanges firstToneRanges c then some (0, none) else none
  | orkhonI true => if c = Char.ofNat 0x10C32 then some (0, none) else none
  | stackable => if c = '\u17D2' then some (-1, none) else none
  | kiratE =>
    if c = Char.ofNat 0x16D63 ∨ c = Char.ofNat 0x16D69 then some (0, none)
    else if c = Char.ofNat 0x16D67 then some (0, some kiratAi)
    else if c = Char.ofNat 0x16D68 then some (1, some kiratE)
    else none
  | kiratAi => if c = Char.ofNat 0x16D63 then some (0, none) else none
  | _ => none

/-- The columns that a character adds in front of a text and what the text then begins with, if the
character belongs to a sequence that the text begins with. -/
def put? (c : Char) (start : Start) : Option (Int × Option Start) :=
  if start.admitsWithin && inRanges withinRanges c then
    some (0, some (if c = joiner then start.join else start))
  else putLetter? c start

end Start

end BootSnapshot.Text.Ligature
