import BootSnapshot.Bytes.Base64
import BootSnapshot.Bytes.Utf8
import BootSnapshot.Decimal.Shortest
import BootSnapshot.PropertyList.Event
import BootSnapshot.PropertyList.Markup
import BootSnapshot.Text.Blank
import BootSnapshot.Text.Moment

set_option autoImplicit false

namespace BootSnapshot.PropertyList.Xml

inductive Field where
  | string
  | integer
  | real
  | data
  | date
deriving DecidableEq

inductive Element where
  | plist
  | array
  | dictionary
  | truth (value : Bool)
  | field (kind : Field)
deriving DecidableEq

namespace Element

/-- A name without its namespace. -/
def localName (name : List Char) : List Char :=
  match Markup.cutAt? ':' name with
  | some (_, behind) => behind
  | none => name

def ofName? (name : List Char) : Option Element :=
  match String.ofList (localName name) with
  | "plist" => some .plist
  | "array" => some .array
  | "dict" => some .dictionary
  | "true" => some (.truth true)
  | "false" => some (.truth false)
  | "key" => some (.field .string)
  | "string" => some (.field .string)
  | "integer" => some (.field .integer)
  | "real" => some (.field .real)
  | "data" => some (.field .data)
  | "date" => some (.field .date)
  | _ => none

def isCollection : Element → Bool
  | .array => true
  | .dictionary => true
  | _ => false

end Element

/-- What begins every hexadecimal number, taken off as often as it is there. -/
def dropHexMarks : List Char → List Char
  | '0' :: 'x' :: rest => dropHexMarks rest
  | cs => cs

/-- A whole number in decimal digits with an optional sign, or in hexadecimal digits. -/
def readInteger? (cs : List Char) : Option WideInteger :=
  match cs with
  | '0' :: 'x' :: _ =>
    (Decimal.readUnsigned? 16 Decimal.unsignedLimit (dropHexMarks cs)).bind fun n =>
      WideInteger.ofInt? n
  | _ =>
    match Decimal.readSigned? cs with
    | some n => WideInteger.ofInt? n
    | none => (Decimal.readUnsigned? 10 Decimal.unsignedLimit cs).bind fun n => WideInteger.ofInt? n

/-- The value that the text of an element stands for. -/
def Field.read? (field : Field) (cs : List Char) : Option Value :=
  match field with
  | .string => some (.string (String.ofList cs))
  | .integer => (readInteger? cs).map .integer
  | .real => (Decimal.readReal? cs).map .real
  | .data => (Bytes.Base64.decode? (cs.filter (! Text.isAsciiBlank ·))).map .data
  | .date => if Text.Moment.isTimeStamp cs then some .date else none

/-- The character of a code point given by its digits; none for zero and for surrogates. -/
def charOfDigits? (base : Nat) (digits : List Char) : Option Char :=
  match Decimal.readNat? base digits with
  | some code => if code ≠ 0 ∧ code.isValidChar then some (Char.ofNat code) else none
  | none => none

/-- What a reference stands for: a code point, a predefined name, or nothing. -/
inductive Reference where
  | code (c : Char)
  | named (c : Char)
  | unknown
deriving DecidableEq

def Reference.ofName? (name : List Char) : Option Reference :=
  match name with
  | '#' :: 'x' :: digits => (charOfDigits? 16 digits).map .code
  | '#' :: digits => (charOfDigits? 10 digits).map .code
  | _ =>
    match String.ofList name with
    | "lt" => some (.named '<')
    | "gt" => some (.named '>')
    | "amp" => some (.named '&')
    | "quot" => some (.named '"')
    | "apos" => some (.named '\x27')
    | _ => some .unknown

/-- The text that a reference adds to an element. -/
def Reference.text : Reference → List Char
  | .code c => [c]
  | .named c => [c]
  | .unknown => []

/-- Where reading stands: the names of the elements that are open, innermost first, and, inside an
element that holds text, its kind and the text so far. -/
structure Position where
  names : List (List Char)
  field : Option (Field × List Char)

/-- The events of a token, and the position behind it. -/
def step? (position : Position) (token : Token) : Option (List Event × Position) :=
  match position.field, token with
  | some (field, content), .text more =>
    some ([], { position with field := (field, content ++ more) })
  | some (field, content), .reference name =>
    (Reference.ofName? name).map fun reference =>
      ([], { position with field := (field, content ++ reference.text) })
  | some (field, content), .closing name =>
    match position.names with
    | top :: outer =>
      if top = name then
        (field.read? content).map fun value => ([.leaf value], ⟨outer, none⟩)
      else none
    | [] => none
  | some _, .opening _ => none
  | none, .text content => if content.all Text.isBlank then some ([], position) else none
  | none, .reference name =>
    match Reference.ofName? name with
    | some (.code c) => if Text.isBlank c then some ([], position) else none
    | _ => none
  | none, .opening name =>
    (Element.ofName? name).map fun element =>
      let inside := name :: position.names
      match element with
      | .plist => ([], ⟨inside, none⟩)
      | .array => ([.openArray], ⟨inside, none⟩)
      | .dictionary => ([.openDictionary], ⟨inside, none⟩)
      | .truth value => ([.leaf (.boolean value)], ⟨inside, none⟩)
      | .field kind => ([], ⟨inside, some (kind, [])⟩)
  | none, .closing name =>
    match position.names with
    | top :: outer =>
      if top = name then
        let closes := (Element.ofName? name).any Element.isCollection
        some (if closes then [.close] else [], ⟨outer, none⟩)
      else none
    | [] => none

/-- The events of tokens; an element that holds text must be closed. -/
def events? (position : Position) : List Token → Option (List Event)
  | [] => if position.field.isNone then some [] else none
  | token :: rest =>
    (step? position token).bind fun (found, next) => (events? next rest).map (found ++ ·)

/-- Text without the mark of byte order that may begin it. -/
def withoutByteOrderMark (cs : List Char) : List Char :=
  match cs with
  | '\ufeff' :: rest => rest
  | _ => cs

/-- Names are taken without their namespace, attributes are ignored, and the outermost element may
be left out or left open. -/
def readChars? (cs : List Char) : Option Value :=
  ((Markup.tokens? (withoutByteOrderMark cs)).bind (events? ⟨[], none⟩)).bind Value.ofEvents?

/-- The value of the bytes of a property list in markup, which must be text throughout. -/
def read? (bytes : List UInt8) : Option Value := (Bytes.chars? bytes).bind readChars?

def escapeChar (c : Char) : List Char :=
  if c = '<' then ['&', 'l', 't', ';']
  else if c = '>' then ['&', 'g', 't', ';']
  else if c = '&' then ['&', 'a', 'm', 'p', ';']
  else if c = '\x27' then ['&', 'a', 'p', 'o', 's', ';']
  else if c = '"' then ['&', 'q', 'u', 'o', 't', ';']
  else if c = '\r' then ['&', '#', '1', '3', ';']
  else [c]

def escape (cs : List Char) : List Char := cs.flatMap escapeChar

def openTag (name : String) : List Char := '<' :: name.toList ++ ['>']

def closeTag (name : String) : List Char := '<' :: '/' :: name.toList ++ ['>']

def emptyTag (name : String) : List Char := '<' :: name.toList ++ ['/', '>']

/-- One line at a depth of indentation. -/
def line (depth : Nat) (content : List Char) : List Char :=
  List.replicate depth '\t' ++ content ++ ['\n']

def textLine (depth : Nat) (name : String) (text : List Char) : List Char :=
  line depth (openTag name ++ escape text ++ closeTag name)

/-- Stretches of a positive length; the last one may be shorter. -/
def stretches (length : Nat) (cs : List Char) : List (List Char) :=
  if _progress : cs ≠ [] ∧ 0 < length then cs.take length :: stretches length (cs.drop length)
  else []
termination_by cs.length
decreasing_by
  have := List.length_pos_iff.mpr _progress.1
  simp only [List.length_drop]; omega

/-- Data stands between its tags in lines of 68 characters. -/
def dataLines (depth : Nat) (bytes : List UInt8) : List Char :=
  line depth (openTag "data") ++
    (stretches 68 (Bytes.Base64.encode bytes)).flatMap (line depth) ++
    line depth (closeTag "data")

def scalarLines (depth : Nat) : Scalar → List Char
  | .boolean value => line depth (emptyTag (if value then "true" else "false"))
  | .integer value => textLine depth "integer" (Decimal.intDigits value.toInt)
  | .real value => textLine depth "real" (Decimal.plain.render value)
  | .string text => textLine depth "string" text.toList
  | .data bytes => dataLines depth bytes

mutual

def nodeLines (depth : Nat) : Node → List Char
  | .dictionary ⟨[]⟩ => line depth (emptyTag "dict")
  | .dictionary ⟨entry :: rest⟩ =>
    line depth (openTag "dict") ++ entryLines (depth + 1) (entry :: rest) ++
      line depth (closeTag "dict")
  | .sequence [] => line depth (emptyTag "array")
  | .sequence (item :: rest) =>
    line depth (openTag "array") ++ itemLines (depth + 1) (item :: rest) ++
      line depth (closeTag "array")
  | .scalar content => scalarLines depth content

def entryLines (depth : Nat) : List (String × Node) → List Char
  | [] => []
  | (key, child) :: rest =>
    textLine depth "key" key.toList ++ nodeLines depth child ++ entryLines depth rest

def itemLines (depth : Nat) : List Node → List Char
  | [] => []
  | item :: rest => nodeLines depth item ++ itemLines depth rest

end

/-- The lines before the outermost value. -/
def header : List Char :=
  ("<?xml version=\"1.0\" encoding=\"UTF-8\"?>\n" ++
    "<!DOCTYPE plist PUBLIC \"-//Apple//DTD PLIST 1.0//EN\" " ++
    "\"http://www.apple.com/DTDs/PropertyList-1.0.dtd\">\n" ++
    "<plist version=\"1.0\">\n").toList

/-- One element a line, indented by tabs. -/
def write (node : Node) : List Char := header ++ nodeLines 0 node ++ closeTag "plist"

end BootSnapshot.PropertyList.Xml
