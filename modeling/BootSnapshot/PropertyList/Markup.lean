set_option autoImplicit false

namespace BootSnapshot.PropertyList

/-- The tags, references and stretches of text of a marked-up document. Declarations, comments,
processing instructions and sections of literal data leave no token. -/
inductive Token where
  | opening (name : List Char)
  | closing (name : List Char)
  | text (content : List Char)
  | reference (name : List Char)
deriving DecidableEq

namespace Markup

def isGap (c : Char) : Bool := c = ' ' || c = '\t' || c = '\n' || c = '\r'

/-- What follows the first occurrence of a mark. -/
def after? (mark : List Char) : List Char → Option (List Char)
  | [] => if mark.isEmpty then some [] else none
  | c :: rest =>
    if mark.isPrefixOf (c :: rest) then some ((c :: rest).drop mark.length) else after? mark rest

/-- What stands before the first occurrence of a character, and what follows it. -/
def cutAt? (mark : Char) : List Char → Option (List Char × List Char)
  | [] => none
  | c :: rest =>
    if c = mark then some ([], rest)
    else (cutAt? mark rest).map fun (before, behind) => (c :: before, behind)

/-- The quotation mark that is open behind a character, given the one open before it. -/
def openQuote (quote : Option Char) (c : Char) : Option Char :=
  match quote with
  | some mark => if c = mark then none else some mark
  | none => if c = '"' ∨ c = '\x27' then some c else none

/-- The content of a tag up to its end, which is not inside quotes, and what follows the tag. -/
def tagContent? (quote : Option Char) : List Char → Option (List Char × List Char)
  | [] => none
  | c :: rest =>
    if quote.isNone ∧ c = '>' then some ([], rest)
    else
      (tagContent? (openQuote quote c) rest).map fun (content, behind) => (c :: content, behind)

/-- What follows a declaration, a comment or an instruction in the subset of a document type
declaration, given from behind its angle bracket on. -/
def afterSubsetMarkup? (cs : List Char) : Option (List Char) :=
  if ['!', '-', '-'].isPrefixOf cs then after? ['-', '-', '>'] (cs.drop 3)
  else if ['?'].isPrefixOf cs then after? ['?', '>'] (cs.drop 1)
  else (tagContent? none cs).map fun (_, behind) => behind

/-- What follows a document type declaration, given from within the subset that it holds between
brackets. Quotes mean nothing there but in declarations. -/
def afterSubset? (cs : List Char) : Option (List Char) :=
  match cs with
  | [] => none
  | c :: rest =>
    if c = ']' then after? ['>'] rest
    else if c = '<' then
      match afterSubsetMarkup? rest with
      | none => none
      | some behind =>
        if _shorter : behind.length ≤ rest.length then afterSubset? behind else none
    else afterSubset? rest
termination_by cs.length
decreasing_by
  · exact Nat.lt_succ_of_le _shorter
  · exact Nat.lt_succ_self _

/-- What follows a document type declaration; neither its end nor its subset is inside quotes. -/
def afterDoctype? (quote : Option Char) : List Char → Option (List Char)
  | [] => none
  | c :: rest =>
    if quote.isNone ∧ c = '>' then some rest
    else if quote.isNone ∧ c = '[' then afterSubset? rest
    else afterDoctype? (openQuote quote c) rest

/-- What follows a declaration, a comment or a section of literal data, given from behind its
exclamation mark on. -/
def afterDeclaration? (cs : List Char) : Option (List Char) :=
  if ['-', '-'].isPrefixOf cs then after? ['-', '-', '>'] (cs.drop 2)
  else if ['[', 'C', 'D', 'A', 'T', 'A', '['].isPrefixOf cs then after? [']', ']', '>'] (cs.drop 7)
  else if (cs.take 7).map Char.toUpper = ['D', 'O', 'C', 'T', 'Y', 'P', 'E'] then
    let rest := cs.drop 7
    match rest.dropWhile isGap with
    | '>' :: _ => none
    | _ => afterDoctype? none rest
  else none

/-- What follows a processing instruction, given from behind its question mark on. -/
def afterInstruction? (cs : List Char) : Option (List Char) :=
  match cs with
  | '>' :: _ => none
  | _ => after? ['?', '>'] cs

def nameOf (content : List Char) : List Char := content.takeWhile (! isGap ·)

/-- The tokens of a tag; one that ends in a slash opens and closes its element. -/
def ofTag (content : List Char) : List Token :=
  if content.getLast? = some '/' then
    [.opening (nameOf content.dropLast), .closing (nameOf content.dropLast)]
  else [.opening (nameOf content)]

def closingName (content : List Char) : List Char :=
  (content.reverse.dropWhile isGap).reverse

/-- Whether a stretch of text ends before a character. -/
def endsText (c : Char) : Bool := c = '<' || c = '&'

/-- The tokens at the front of a text that is not empty, and what follows them. -/
def step? (c : Char) (rest : List Char) : Option (List Token × List Char) :=
  if c = '<' then
    match rest with
    | '!' :: behind => (afterDeclaration? behind).map ([], ·)
    | '?' :: behind => (afterInstruction? behind).map ([], ·)
    | '/' :: behind =>
      (cutAt? '>' behind).map fun (content, after) => ([.closing (closingName content)], after)
    | _ => (tagContent? none rest).map fun (content, after) => (ofTag content, after)
  else if c = '&' then
    let name := rest.takeWhile fun next => ! (endsText next || next = ';')
    match rest.drop name.length with
    | ';' :: after => some ([.reference name], after)
    | _ => none
  else
    let content := rest.takeWhile (! endsText ·)
    some ([.text (c :: content)], rest.drop content.length)

/-- The tokens of a text; nothing if a tag, a reference or a declaration has no end. -/
def tokens? (cs : List Char) : Option (List Token) :=
  match cs with
  | [] => some []
  | c :: rest =>
    match step? c rest with
    | none => none
    | some (found, after) =>
      if _shorter : after.length ≤ rest.length then (tokens? after).map (found ++ ·) else none
termination_by cs.length
decreasing_by exact Nat.lt_succ_of_le _shorter

end Markup
end BootSnapshot.PropertyList
