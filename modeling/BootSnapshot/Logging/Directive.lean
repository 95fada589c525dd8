import BootSnapshot.Decimal.Binary64
import BootSnapshot.Logging.Pattern
import BootSnapshot.Text.Blank
import BootSnapshot.Text.Case

set_option autoImplicit false

namespace BootSnapshot.Logging

def levels : List String := ["off", "error", "warn", "info", "debug", "trace"]

/-- Whether a text is a level: a name in any case, its place among the names, or nothing. -/
def isLevel (text : List Char) : Bool :=
  text = [] || Text.asciiLowercase (String.ofList text) ∈ levels ||
    (Decimal.readUnsigned? 10 levels.length text).isSome

/-- Whether a text is a field, with or without a value. A value is a number or a pattern. -/
def isField (text : List Char) : Bool :=
  let value := ((text.dropWhile (· ≠ '=')).drop 1).takeWhile (· ≠ '=')
  text ≠ [] && ((Decimal.readReal? value).isSome || Pattern.isWellFormed value)

/-- A place in a directive. Fields and levels are held from their last character on. -/
inductive DirectivePlace where
  | start
  | target
  | span
  | field (held : List Char)
  | behindFields
  | behindSpan
  | level (held : List Char)
  | complete
deriving DecidableEq

namespace DirectivePlace

def beginsTarget (c : Char) : Bool :=
  c = '-' || c = ':' || c = '_' || Text.isAlphanumeric c

def next? (place : DirectivePlace) (c : Char) : Option DirectivePlace :=
  match place with
  | start => if c = '[' then some span else if beginsTarget c then some target else none
  | target =>
    if c = '=' then some (level [])
    else if c = '[' then some span
    else if c = ',' then some complete
    else some target
  | span =>
    if c = ']' then some behindSpan
    else if c = '\x7b' then some (field [])
    else some span
  | field held =>
    if c = '\x7d' ∨ c = ',' then
      if isField held.reverse then some (if c = ',' then field [] else behindFields) else none
    else some (field (c :: held))
  | behindFields => if c = ']' then some behindSpan else none
  | behindSpan => if c = '=' then some (level []) else none
  | level held =>
    if c = ',' then if isLevel held.reverse then some complete else none
    else some (level (c :: held))
  | complete => none

end DirectivePlace

/-- Whether a text is a directive: a level, a target, or a target with its level. A target can be
told more closely by a span in brackets, which can list fields with patterns for their values in
braces: `target[span{field=pattern}]=level`. White space around a text spoils a level that it ends
in. -/
def isDirective (text : List Char) : Bool :=
  match (Text.trimChars text).foldlM DirectivePlace.next? .start with
  | some .target => true
  | some .behindSpan => true
  | some .complete => true
  | some (.level held) => isLevel held.reverse && Text.trimChars text = text
  | _ => false

end BootSnapshot.Logging
