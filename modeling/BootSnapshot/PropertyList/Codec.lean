import BootSnapshot.PropertyList.Binary
import BootSnapshot.PropertyList.Xml

set_option autoImplicit false

namespace BootSnapshot.PropertyList

inductive Format where
  | xml
  | binary
deriving DecidableEq

/-- Bytes that begin with the signature are in binary form. -/
def Format.ofBytes (bytes : List UInt8) : Format :=
  if Binary.signature.isPrefixOf bytes then .binary else .xml

/-- The value of a property list in either form; it takes as many bytes as the signature at the
least. -/
def readValue? (bytes : List UInt8) : Option Value :=
  if bytes.length < Binary.signature.length then none
  else
    match Format.ofBytes bytes with
    | .binary => Binary.read? bytes
    | .xml => Xml.read? bytes

/-- The tree of a property list; `source` names it in errors. The value that the bytes are read to
must be one that a tree can hold. -/
def read (source : String) (bytes : List UInt8) : Except ParseError Node :=
  match readValue? bytes with
  | some value => value.toNode
  | none => .error (.malformed source)

def write (format : Format) (node : Node) : List UInt8 :=
  match format with
  | .xml => Bytes.utf8 (Xml.write node)
  | .binary => Binary.write node

end BootSnapshot.PropertyList
