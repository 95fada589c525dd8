set_option autoImplicit false

namespace BootSnapshot.Bytes

def utf8 (cs : List Char) : List UInt8 := cs.flatMap String.utf8EncodeChar

/-- The character that the bytes begin with; it takes four bytes at most. -/
def firstChar? (bytes : List UInt8) : Option Char := (bytes.take 4).toByteArray.utf8DecodeChar? 0

/-- The characters that bytes stand for, if every byte belongs to one. -/
def chars? (bytes : List UInt8) : Option (List Char) :=
  match bytes with
  | [] => some []
  | byte :: rest =>
    match firstChar? (byte :: rest) with
    | some c => (chars? (rest.drop (c.utf8Size - 1))).map (c :: ·)
    | none => none
termination_by bytes.length
decreasing_by simp only [List.length_drop, List.length_cons]; omega

/-- The text that bytes stand for, if every byte belongs to a character. -/
def text? (bytes : List UInt8) : Option String := (chars? bytes).map String.ofList

/-- The least and the greatest second byte of characters of three or four bytes that begin with a
byte. -/
def secondRange? (lead : UInt8) : Option (UInt8 × UInt8) :=
  if lead = 0xE0 then some (0xA0, 0xBF)
  else if lead = 0xED then some (0x80, 0x9F)
  else if 0xE1 ≤ lead ∧ lead ≤ 0xEF then some (0x80, 0xBF)
  else if lead = 0xF0 then some (0x90, 0xBF)
  else if 0xF1 ≤ lead ∧ lead ≤ 0xF3 then some (0x80, 0xBF)
  else if lead = 0xF4 then some (0x80, 0x8F)
  else none

/-- Of a byte and those behind it, which hold no whole character, the number of those behind it
that could go on to one. -/
def brokenTail (lead : UInt8) (rest : List UInt8) : Nat :=
  match secondRange? lead, rest with
  | some (low, high), second :: rest =>
    if second < low ∨ high < second then 0
    else
      match rest with
      | third :: _ => if 0xF0 ≤ lead ∧ 0x80 ≤ third ∧ third ≤ 0xBF then 2 else 1
      | [] => 1
  | _, _ => 0

/-- The characters of the bytes, with a replacement character for each beginning of one that breaks
off. -/
def lossyChars (bytes : List UInt8) : List Char :=
  match bytes with
  | [] => []
  | byte :: rest =>
    match firstChar? bytes with
    | some c => c :: lossyChars (rest.drop (c.utf8Size - 1))
    | none => '\uFFFD' :: lossyChars (rest.drop (brokenTail byte rest))
termination_by bytes.length
decreasing_by all_goals simp only [List.length_drop, List.length_cons]; omega

def ofText (text : String) : List UInt8 := utf8 text.toList

end BootSnapshot.Bytes
