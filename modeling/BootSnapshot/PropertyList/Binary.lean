import BootSnapshot.Bytes.Utf8
import BootSnapshot.PropertyList.Event

/-!
# Property lists in binary form

Eight bytes of signature, the objects, a table of the objects' offsets, and a trailer of 32 bytes
that tells the widths of offsets and references, the number of objects, the outermost object and
the place of the table. Collections refer to their items by number. Objects may be shared but must
not hold themselves; a chain of collections longer than the number of objects does.

The trailer begins with six bytes that mean nothing. An object may begin there, but what has a
count in front ends before the fields of the trailer; a field of fixed width may reach into them.
-/

set_option autoImplicit false

namespace BootSnapshot.PropertyList.Binary

def signature : List UInt8 := [0x62, 0x70, 0x6C, 0x69, 0x73, 0x74, 0x30, 0x30]

def trailerLength : Nat := 32

/-- The length of the fields of the trailer, behind six bytes that mean nothing. -/
def trailerFieldsLength : Nat := 26

/-- The number that bytes stand for, the highest byte first. -/
def number (bytes : List UInt8) : Nat := bytes.foldl (fun value byte => value * 256 + byte.toNat) 0

/-- The given count of bytes, and what follows them. -/
def cut? (count : Nat) (bytes : List UInt8) : Option (List UInt8 × List UInt8) :=
  if count ≤ bytes.length then some (bytes.take count, bytes.drop count) else none

/-- The given count of bytes in front of the fields of the trailer, with which the bytes end. -/
def cutBeforeFields? (count : Nat) (bytes : List UInt8) : Option (List UInt8 × List UInt8) :=
  if count + trailerFieldsLength ≤ bytes.length then some (bytes.take count, bytes.drop count)
  else none

/-- Numbers of equal width, one after another. -/
def numbers? (width : Nat) : Nat → List UInt8 → Option (List Nat)
  | 0, _ => some []
  | count + 1, bytes =>
    (cut? width bytes).bind fun (field, rest) =>
      (numbers? width count rest).map (number field :: ·)

/-- The widths that offsets and references can have. -/
def isWidth (width : Nat) : Bool := width ∈ [1, 2, 3, 4, 8]

/-- The numbers of a run of fields in front of the fields of the trailer. -/
def run? (width count : Nat) (bytes : List UInt8) : Option (List Nat) :=
  (cutBeforeFields? (count * width) bytes).bind fun (field, _) => numbers? width count field

/-- What reading needs to know of a list: its bytes, the width of references, and where each object
is. -/
structure Layout where
  bytes : List UInt8
  referenceWidth : Nat
  offsets : List Nat

/-- The count that an object begins with, and the bytes behind it. Counts above fourteen follow in
a field of their own. -/
def count? (low : Nat) (bytes : List UInt8) : Option (Nat × List UInt8) :=
  if low < 15 then some (low, bytes)
  else
    (cut? 1 bytes).bind fun (mark, rest) =>
      (cut? (Nat.pow 2 (number mark % 4)) rest).map fun (field, behind) => (number field, behind)

/-- The characters of units of 16 bits; nothing for a surrogate without its partner. -/
def charsOfUnits? : List Nat → Option (List Char)
  | [] => some []
  | unit :: rest =>
    if 0xD800 ≤ unit ∧ unit < 0xDC00 then
      match rest with
      | low :: behind =>
        if 0xDC00 ≤ low ∧ low < 0xE000 then
          (charsOfUnits? behind).map
            (Char.ofNat (0x10000 + (unit - 0xD800) * 0x400 + (low - 0xDC00)) :: ·)
        else none
      | [] => none
    else if 0xDC00 ≤ unit ∧ unit < 0xE000 then none
    else (charsOfUnits? rest).map (Char.ofNat unit :: ·)

/-- A whole number: unsigned up to four bytes, signed in eight, and in sixteen only if it fits. -/
def readInteger? (width : Nat) (field : List UInt8) : Option Value :=
  let n : Int := number field
  let value := if width = 8 ∧ 0x8000000000000000 ≤ n then n - 0x10000000000000000 else n
  (WideInteger.ofInt? value).map .integer

/-- A number of 32 bits as one of 64 bits. -/
def widenReal (bits : Nat) : Decimal.Binary64 :=
  let negative := 0x80000000 ≤ bits
  let exponent := bits / 0x800000 % 0x100
  let fraction := bits % 0x800000
  if exponent = 255 then
    .ofMagnitude negative
      (Decimal.Binary64.infinityMagnitude +
        if fraction = 0 then 0 else fraction * 0x20000000 % 0x8000000000000 + 0x8000000000000)
  else if exponent = 0 then
    .ofMagnitude negative (Decimal.Binary64.nearestMagnitude fraction (Nat.pow 2 149))
  else
    .ofMagnitude negative
      ((exponent + 896) * Decimal.Binary64.fractionSize + fraction * 0x20000000)

/-- The bits of -378683424000, the first second of the year -9999 counted from the year 2001, but
for their sign. -/
def firstSecond : Nat := 0x42560AD29F400000

/-- The bits of 252423993600, the first second behind the year 9999. -/
def secondsEnd : Nat := 0x424D62D23C800000

/-- Whether a count of seconds from the year 2001 on is a moment of the years -9999 to 9999. -/
def isMoment (seconds : Decimal.Binary64) : Bool :=
  if seconds.isNegative then seconds.magnitude ≤ firstSecond else seconds.magnitude < secondsEnd

/-- The value of an object that holds no others, from its type, the low half of its first byte and
the bytes behind that. -/
def readScalar? (type low : Nat) (bytes : List UInt8) : Option Value :=
  match type with
  | 0x0 =>
    if low = 8 then some (.boolean false)
    else if low = 9 then some (.boolean true)
    else none
  | 0x1 =>
    if low ≤ 4 then
      let width := Nat.pow 2 low
      (cut? width bytes).bind fun (field, _) => readInteger? width field
    else none
  | 0x2 =>
    if low = 2 then (cut? 4 bytes).map fun (field, _) => .real (widenReal (number field))
    else if low = 3 then (cut? 8 bytes).map fun (field, _) => .real ⟨UInt64.ofNat (number field)⟩
    else none
  | 0x3 =>
    if low = 3 then
      (cut? 8 bytes).bind fun (field, _) =>
        if isMoment ⟨UInt64.ofNat (number field)⟩ then some .date else none
    else none
  | 0x4 =>
    (count? low bytes).bind fun (count, rest) =>
      (cutBeforeFields? count rest).map fun (field, _) => .data field
  | 0x5 =>
    (count? low bytes).bind fun (count, rest) =>
      (cutBeforeFields? count rest).bind fun (field, _) => (Bytes.text? field).map .string
  | 0x6 =>
    (count? low bytes).bind fun (count, rest) =>
      ((run? 2 count rest).bind charsOfUnits?).map fun cs => .string (String.ofList cs)
  | 0x8 =>
    if low < 8 then (cut? (low + 1) bytes).map fun (field, _) => .uid (number field) else none
  | _ => none

/-- The pairs of keys and values of a dictionary; a key must be text. -/
def entries? : List Value → List Value → Option (List (String × Value))
  | [], _ => some []
  | .string key :: keys, value :: values => (entries? keys values).map ((key, value) :: ·)
  | _, _ => none

def readAll? (read : Nat → Option Value) : List Nat → Option (List Value)
  | [] => some []
  | reference :: rest =>
    (read reference).bind fun value => (readAll? read rest).map (value :: ·)

/-- The numbers of the keys and of the values of a dictionary. They end so early that as many again
would fit in front of the fields of the trailer. -/
def references? (width count : Nat) (bytes : List UInt8) : Option (List Nat × List Nat) :=
  if 4 * count * width + trailerFieldsLength ≤ bytes.length then
    (run? width (2 * count) bytes).map fun numbers => (numbers.take count, numbers.drop count)
  else none

/-- The value of an object by its number; `height` bounds the collections it may hold within one
another. -/
def readObject? (layout : Layout) : Nat → Nat → Option Value
  | 0, _ => none
  | height + 1, reference =>
    match layout.offsets[reference]? with
    | none => none
    | some offset =>
      let found := layout.bytes.drop offset
      if found.length ≤ trailerFieldsLength then none
      else
        match found with
        | [] => none
        | first :: bytes =>
          let type := first.toNat / 16
          let low := first.toNat % 16
          if type = 0xA then
            (count? low bytes).bind fun (count, rest) =>
              (run? layout.referenceWidth count rest).bind fun items =>
                (readAll? (readObject? layout height) items).map .array
          else if type = 0xD then
            (count? low bytes).bind fun (count, rest) =>
              (references? layout.referenceWidth count rest).bind fun (keys, values) =>
                (readAll? (readObject? layout height) keys).bind fun keys =>
                  (readAll? (readObject? layout height) values).bind fun values =>
                    (entries? keys values).map fun pairs => .dictionary (.ofPairs pairs)
          else readScalar? type low bytes

/-- The layout and the outermost object that a trailer tells. -/
def layout? (bytes : List UInt8) : Option (Layout × Nat) :=
  if bytes.length < signature.length + trailerLength then none
  else
    let trailer := bytes.drop (bytes.length - trailerLength)
    let offsetWidth := number ((trailer.drop 6).take 1)
    let referenceWidth := number ((trailer.drop 7).take 1)
    let objects := number ((trailer.drop 8).take 8)
    let outermost := number ((trailer.drop 16).take 8)
    let table := number ((trailer.drop 24).take 8)
    if isWidth offsetWidth && isWidth referenceWidth then
      (run? offsetWidth objects (bytes.drop table)).map fun offsets =>
        (⟨bytes, referenceWidth, offsets⟩, outermost)
    else none

def read? (bytes : List UInt8) : Option Value :=
  (layout? bytes).bind fun (layout, outermost) =>
    readObject? layout (layout.offsets.length + 1) outermost

/-- A number in a field of the given width, the highest byte first. -/
def field : Nat → Nat → List UInt8
  | 0, _ => []
  | width + 1, n => field width (n / 256) ++ [UInt8.ofNat (n % 256)]

/-- References and offsets are written in eight bytes. -/
def wordWidth : Nat := 8

/-- The first byte of an object and its count. -/
def mark (type count : Nat) : List UInt8 :=
  if count < 15 then [UInt8.ofNat (type * 16 + count)]
  else UInt8.ofNat (type * 16 + 15) :: 0x13 :: field 8 count

/-- Units of 16 bits of a character. -/
def unitsOf (c : Char) : List Nat :=
  if c.toNat < 0x10000 then [c.toNat]
  else [0xD800 + (c.toNat - 0x10000) / 0x400, 0xDC00 + (c.toNat - 0x10000) % 0x400]

/-- A text is written in bytes if it is ASCII throughout, and in units of 16 bits otherwise. -/
def textObject (text : String) : List UInt8 :=
  let cs := text.toList
  if cs.all fun c => c.toNat < 128 then mark 5 cs.length ++ Bytes.utf8 cs
  else
    let units := cs.flatMap unitsOf
    mark 6 units.length ++ units.flatMap (field 2)

def scalarObject : Scalar → List UInt8
  | .boolean value => [if value then 9 else 8]
  | .integer value =>
    if value.toInt < 0 then 0x13 :: field 8 (value.toInt + 0x10000000000000000).toNat
    else 0x13 :: field 8 value.toInt.toNat
  | .real value => 0x23 :: field 8 value.bits.toNat
  | .string text => textObject text
  | .data bytes => mark 4 bytes.length ++ bytes

mutual

def objectCount : Node → Nat
  | .dictionary ⟨entries⟩ => 1 + entries.length + entriesCount entries
  | .sequence items => 1 + itemsCount items
  | .scalar _ => 1

def entriesCount : List (String × Node) → Nat
  | [] => 0
  | (_, child) :: rest => objectCount child + entriesCount rest

def itemsCount : List Node → Nat
  | [] => 0
  | item :: rest => objectCount item + itemsCount rest

end

/-- The numbers of objects, given the first one and how many objects each takes. -/
def numbering (first : Nat) : List Nat → List Nat
  | [] => []
  | count :: rest => first :: numbering (first + count) rest

mutual

def objects (own : Nat) : Node → List (List UInt8)
  | .dictionary ⟨entries⟩ =>
    let keys := entries.length
    let values := numbering (own + 1 + keys) (entries.map fun entry => objectCount entry.2)
    (mark 0xD keys ++ (numbering (own + 1) (entries.map fun _ => 1)).flatMap (field wordWidth) ++
        values.flatMap (field wordWidth)) ::
      ((entries.map fun entry => textObject entry.1) ++ entryObjects (own + 1 + keys) entries)
  | .sequence items =>
    (mark 0xA items.length ++
        (numbering (own + 1) (items.map objectCount)).flatMap (field wordWidth)) ::
      itemObjects (own + 1) items
  | .scalar content => [scalarObject content]

def entryObjects (first : Nat) : List (String × Node) → List (List UInt8)
  | [] => []
  | (_, child) :: rest => objects first child ++ entryObjects (first + objectCount child) rest

def itemObjects (first : Nat) : List Node → List (List UInt8)
  | [] => []
  | item :: rest => objects first item ++ itemObjects (first + objectCount item) rest

end

def write (node : Node) : List UInt8 :=
  let written := objects 0 node
  let body := written.flatten
  signature ++ body ++
    (numbering signature.length (written.map List.length)).flatMap (field wordWidth) ++
    field 6 0 ++ field 1 wordWidth ++ field 1 wordWidth ++ field 8 written.length ++ field 8 0 ++
    field 8 (signature.length + body.length)

end BootSnapshot.PropertyList.Binary
