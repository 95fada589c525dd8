import BootSnapshot.PropertyList.Xml
import BootSnapshot.Proofs.Bytes.Base64
import BootSnapshot.Proofs.Decimal.Natural
import BootSnapshot.Proofs.Decimal.ReadBack
import BootSnapshot.Proofs.PropertyList.Event
import BootSnapshot.Proofs.PropertyList.Markup

set_option autoImplicit false

namespace BootSnapshot.PropertyList.Xml

def eventsFrom? (position : Position) (cs : List Char) : Option (List Event) :=
  (Markup.tokens? cs).bind (events? position)

/-- Tokens at the front that lead from one position to another. -/
def Leads (position : Position) (tokens : List Token) (found : List Event) (next : Position) :
    Prop :=
  ∀ more : List Token, events? position (tokens ++ more) = (events? next more).map (found ++ ·)

theorem Leads.single {position next : Position} {token : Token} {found : List Event}
    (step : step? position token = some (found, next)) : Leads position [token] found next := by
  intro more
  rw [List.singleton_append, events?, step, Option.bind_some]

theorem Leads.append {position middle next : Position} {front back : List Token}
    {found others : List Event} (first : Leads position front found middle)
    (second : Leads middle back others next) :
    Leads position (front ++ back) (found ++ others) next := by
  intro more
  rw [List.append_assoc, first, second, Option.map_map]
  simp only [Function.comp_def, List.append_assoc]

theorem eventsFrom?_of_tokens {position next : Position} {cs rest : List Char}
    {tokens : List Token} {found : List Event}
    (markup : Markup.tokens? cs = (Markup.tokens? rest).map (tokens ++ ·))
    (leads : Leads position tokens found next) :
    eventsFrom? position cs = (eventsFrom? next rest).map (found ++ ·) := by
  simp only [eventsFrom?, markup]
  cases Markup.tokens? rest with
  | none => rfl
  | some more => exact leads more

theorem events?_text_nil (position : Position) (tokens : List Token) :
    events? position (.text [] :: tokens) = events? position tokens := by
  obtain ⟨names, field⟩ := position
  cases field with
  | none =>
    simp only [events?, step?, List.all_nil, ↓reduceIte, Option.bind_some, List.nil_append,
      Option.map_id_fun', id_eq]
  | some content =>
    simp only [events?, step?, List.append_nil, Option.bind_some, List.nil_append,
      Option.map_id_fun', id_eq]

theorem events?_text_cons (position : Position) (c : Char) (more : List Char)
    (tokens : List Token) :
    events? position (.text (c :: more) :: tokens) =
      events? position (.text [c] :: .text more :: tokens) := by
  obtain ⟨names, field⟩ := position
  cases field with
  | none =>
    cases here : Text.isBlank c with
    | false => simp only [events?, step?, List.all_cons, here, Bool.false_and, Bool.false_eq_true,
        ↓reduceIte, Option.bind_none]
    | true => simp only [events?, step?, List.all_cons, here, Bool.true_and, List.all_nil,
        ↓reduceIte, Option.bind_some, List.nil_append, Option.map_id_fun', id_eq]
  | some content =>
    simp only [events?, step?, Option.bind_some, List.append_assoc, List.singleton_append,
      List.nil_append, Option.map_id_fun', id_eq]

/-- Text in front may be taken as one token, even if there is none. -/
theorem eventsFrom?_eq_text (position : Position) (cs : List Char) :
    eventsFrom? position cs =
      (Markup.tokens? (cs.dropWhile (! Markup.endsText ·))).bind fun tokens =>
        events? position (.text (cs.takeWhile (! Markup.endsText ·)) :: tokens) := by
  cases cs with
  | nil => simp only [eventsFrom?, List.dropWhile_nil, List.takeWhile_nil, events?_text_nil]
  | cons c rest =>
    cases inText : Markup.endsText c with
    | true =>
      simp only [eventsFrom?, List.dropWhile_cons, List.takeWhile_cons, inText, Bool.not_true,
        Bool.false_eq_true, ↓reduceIte, events?_text_nil]
    | false =>
      simp only [eventsFrom?, Markup.tokens?_text inText, List.dropWhile_cons, List.takeWhile_cons,
        inText, Bool.not_false, ↓reduceIte, Option.bind_map, Function.comp_def,
        List.singleton_append]

/-- A character of text is read for itself, whatever follows it. -/
theorem eventsFrom?_text {position next : Position} {c : Char} {found : List Event}
    (inText : Markup.endsText c = false) (step : step? position (.text [c]) = some (found, next))
    (rest : List Char) :
    eventsFrom? position (c :: rest) = (eventsFrom? next rest).map (found ++ ·) := by
  rw [eventsFrom?_eq_text next rest, eventsFrom?, Markup.tokens?_text inText]
  cases Markup.tokens? (rest.dropWhile (! Markup.endsText ·)) with
  | none => rfl
  | some tokens =>
    simp only [Option.map_some, Option.bind_some, List.singleton_append]
    rw [events?_text_cons, events?, step, Option.bind_some]

section Field

variable (names : List (List Char)) (field : Field) (content : List Char)

theorem eventsFrom?_fieldText {more : List Char}
    (inText : ∀ c ∈ more, Markup.endsText c = false) (rest : List Char) :
    eventsFrom? ⟨names, some (field, content)⟩ (more ++ rest) =
      eventsFrom? ⟨names, some (field, content ++ more)⟩ rest := by
  induction more generalizing content with
  | nil => rw [List.nil_append, List.append_nil]
  | cons c others ih =>
    obtain ⟨here, inTextOthers⟩ := List.forall_mem_cons.mp inText
    have step : step? ⟨names, some (field, content)⟩ (.text [c]) =
        some ([], ⟨names, some (field, content ++ [c])⟩) := rfl
    rw [List.cons_append, eventsFrom?_text here step, ih _ inTextOthers, List.append_assoc,
      List.singleton_append]
    exact Option.map_id_apply

theorem eventsFrom?_reference {name : List Char} {reference : Reference}
    (plain : name.all Markup.inReference = true)
    (named : Reference.ofName? name = some reference) (rest : List Char) :
    eventsFrom? ⟨names, some (field, content)⟩ ('&' :: (name ++ ';' :: rest)) =
      eventsFrom? ⟨names, some (field, content ++ reference.text)⟩ rest := by
  have step : step? ⟨names, some (field, content)⟩ (.reference name) =
      some ([], ⟨names, some (field, content ++ reference.text)⟩) := by
    simp only [step?, named, Option.map_some]
  rw [eventsFrom?_of_tokens (Markup.tokens?_reference plain rest) (.single step)]
  exact Option.map_id_apply

/-- A character stands for itself or is written as a reference to it. -/
theorem escapeChar_cases (c : Char) :
    (escapeChar c = [c] ∧ Markup.endsText c = false) ∨
      ∃ (name : List Char) (reference : Reference), escapeChar c = '&' :: (name ++ [';']) ∧
        name.all Markup.inReference = true ∧
        Reference.ofName? name = some reference ∧ reference.text = [c] := by
  unfold escapeChar
  split_ifs with less greater ampersand apostrophe quote lineEnd
  · exact .inr ⟨['l', 't'], .named '<', rfl, by decide, by decide, by rw [less]; rfl⟩
  · exact .inr ⟨['g', 't'], .named '>', rfl, by decide, by decide, by rw [greater]; rfl⟩
  · exact .inr ⟨['a', 'm', 'p'], .named '&', rfl, by decide, by decide, by rw [ampersand]; rfl⟩
  · exact .inr ⟨['a', 'p', 'o', 's'], .named '\x27', rfl, by decide, by decide,
      by rw [apostrophe]; rfl⟩
  · exact .inr ⟨['q', 'u', 'o', 't'], .named '"', rfl, by decide, by decide, by rw [quote]; rfl⟩
  · exact .inr ⟨['#', '1', '3'], .code '\r', rfl, by decide, by decide, by rw [lineEnd]; rfl⟩
  · refine .inl ⟨rfl, ?_⟩
    simp only [Markup.endsText, less, ampersand, decide_false, Bool.or_false]

theorem eventsFrom?_escapeChar (c : Char) (rest : List Char) :
    eventsFrom? ⟨names, some (field, content)⟩ (escapeChar c ++ rest) =
      eventsFrom? ⟨names, some (field, content ++ [c])⟩ rest := by
  rcases escapeChar_cases c with ⟨itself, inText⟩ | ⟨name, reference, written, plain, named, text⟩
  · rw [itself]
    exact eventsFrom?_fieldText names field content (List.forall_mem_singleton.mpr inText) rest
  · rw [written, List.cons_append, List.append_assoc, List.singleton_append,
      eventsFrom?_reference names field content plain named, text]

theorem eventsFrom?_escape (text rest : List Char) :
    eventsFrom? ⟨names, some (field, content)⟩ (escape text ++ rest) =
      eventsFrom? ⟨names, some (field, content ++ text)⟩ rest := by
  induction text generalizing content with
  | nil => rw [escape, List.flatMap_nil, List.nil_append, List.append_nil]
  | cons c others ih =>
    unfold escape at ih ⊢
    rw [List.flatMap_cons, List.append_assoc, eventsFrom?_escapeChar, ih, List.append_assoc,
      List.singleton_append]

end Field

/-- A text that gives events between elements, whatever is open around it and whatever follows. -/
def Reads (cs : List Char) (events : List Event) : Prop :=
  ∀ (names : List (List Char)) (rest : List Char),
    eventsFrom? ⟨names, none⟩ (cs ++ rest) = (eventsFrom? ⟨names, none⟩ rest).map (events ++ ·)

namespace Reads

theorem nil : Reads [] [] := by
  intro names rest
  exact Option.map_id_apply.symm

theorem append {front back : List Char} {found others : List Event} (first : Reads front found)
    (second : Reads back others) : Reads (front ++ back) (found ++ others) := by
  intro names rest
  rw [List.append_assoc, first, second, Option.map_map]
  simp only [Function.comp_def, List.append_assoc]

theorem blank {c : Char} (isBlank : Text.isBlank c = true) : Reads [c] [] := by
  intro names rest
  have inText : Markup.endsText c = false := by
    have noMark : c ≠ '<' ∧ c ≠ '&' := by
      constructor <;> rintro rfl <;> exact absurd isBlank (by decide)
    simp only [Markup.endsText, noMark, decide_false, Bool.or_false]
  have step : step? ⟨names, none⟩ (.text [c]) = some ([], ⟨names, none⟩) := by
    simp only [step?, List.all_cons, List.all_nil, isBlank, Bool.and_true, ↓reduceIte]
  exact eventsFrom?_text inText step rest

theorem tabs (depth : Nat) : Reads (List.replicate depth '\t') [] := by
  induction depth with
  | zero => exact nil
  | succ depth ih => exact append (blank (c := '\t') (by decide)) ih

theorem line (depth : Nat) {content : List Char} {events : List Event}
    (inside : Reads content events) : Reads (line depth content) events := by
  have whole := append (append (tabs depth) inside) (blank (c := '\n') (by decide))
  rwa [List.nil_append, List.append_nil] at whole

end Reads

section Tags

variable {name : String} {position next : Position} {found : List Event}

theorem eventsFrom?_openTag (plain : Markup.IsPlainName name.toList)
    (step : step? position (.opening name.toList) = some (found, next)) (rest : List Char) :
    eventsFrom? position (openTag name ++ rest) = (eventsFrom? next rest).map (found ++ ·) := by
  rw [openTag, List.append_assoc]
  exact eventsFrom?_of_tokens (plain.tokens?_opening rest) (.single step)

theorem eventsFrom?_closeTag (plain : Markup.IsPlainName name.toList)
    (step : step? position (.closing name.toList) = some (found, next)) (rest : List Char) :
    eventsFrom? position (closeTag name ++ rest) = (eventsFrom? next rest).map (found ++ ·) := by
  rw [closeTag, List.append_assoc]
  exact eventsFrom?_of_tokens (plain.tokens?_closing rest) (.single step)

end Tags

/-- A tag of a name that gives events where it opens and where it closes. -/
structure IsElement (name : String) (opened closed : List Event) : Prop where
  plain : Markup.IsPlainName name.toList
  opening : ∀ names, step? ⟨names, none⟩ (.opening name.toList) =
    some (opened, ⟨name.toList :: names, none⟩)
  closing : ∀ names, step? ⟨name.toList :: names, none⟩ (.closing name.toList) =
    some (closed, ⟨names, none⟩)

namespace IsElement

variable {name : String} {opened closed : List Event}

theorem reads_emptyTag (element : IsElement name opened closed) :
    Reads (emptyTag name) (opened ++ closed) := by
  intro names rest
  have markup := element.plain.tokens?_empty rest
  have leads := (Leads.single (element.opening names)).append (.single (element.closing names))
  rw [← eventsFrom?_of_tokens markup leads, emptyTag, List.append_assoc]
  rfl

theorem reads_enclosed (element : IsElement name opened closed) {cs : List Char}
    {events : List Event} (inside : Reads cs events) :
    Reads (openTag name ++ cs ++ closeTag name) (opened ++ events ++ closed) := by
  intro names rest
  rw [List.append_assoc, List.append_assoc,
    eventsFrom?_openTag element.plain (element.opening names), inside,
    eventsFrom?_closeTag element.plain (element.closing names), Option.map_map, Option.map_map]
  simp only [Function.comp_def, List.append_assoc]

theorem array : IsElement "array" [.openArray] [.close] :=
  ⟨⟨by decide, by decide⟩, fun _ => rfl, fun _ => rfl⟩

theorem dictionary : IsElement "dict" [.openDictionary] [.close] :=
  ⟨⟨by decide, by decide⟩, fun _ => rfl, fun _ => rfl⟩

theorem truth (value : Bool) :
    IsElement (if value then "true" else "false") [.leaf (.boolean value)] [] := by
  cases value with
  | true => exact ⟨⟨by decide, by decide⟩, fun _ => rfl, fun _ => rfl⟩
  | false => exact ⟨⟨by decide, by decide⟩, fun _ => rfl, fun _ => rfl⟩

theorem plist : IsElement "plist" [] [] :=
  ⟨⟨by decide, by decide⟩, fun _ => rfl, fun _ => rfl⟩

end IsElement

structure IsTextElement (name : String) (field : Field) : Prop where
  plain : Markup.IsPlainName name.toList
  named : Element.ofName? name.toList = some (.field field)

namespace IsTextElement

variable {name : String} {field : Field}

theorem reads_enclosed (element : IsTextElement name field) {cs content : List Char}
    {value : Value}
    (inside : ∀ names rest, eventsFrom? ⟨names, some (field, [])⟩ (cs ++ rest) =
      eventsFrom? ⟨names, some (field, content)⟩ rest)
    (read : field.read? content = some value) :
    Reads (openTag name ++ cs ++ closeTag name) [.leaf value] := by
  intro names rest
  have opening : step? ⟨names, none⟩ (.opening name.toList) =
      some ([], ⟨name.toList :: names, some (field, [])⟩) := by
    simp only [step?, element.named, Option.map_some]
  have closing : step? ⟨name.toList :: names, some (field, content)⟩ (.closing name.toList) =
      some ([.leaf value], ⟨names, none⟩) := by
    simp only [step?, ↓reduceIte, read, Option.map_some]
  rw [List.append_assoc, List.append_assoc, eventsFrom?_openTag element.plain opening, inside,
    eventsFrom?_closeTag element.plain closing]
  exact Option.map_id_apply

theorem reads_textLine (element : IsTextElement name field) (depth : Nat) {text : List Char}
    {value : Value} (read : field.read? text = some value) :
    Reads (textLine depth name text) [.leaf value] := by
  refine Reads.line depth (element.reads_enclosed ?_ read)
  intro names rest
  exact eventsFrom?_escape names field [] text rest

theorem string : IsTextElement "string" .string := ⟨⟨by decide, by decide⟩, by decide⟩

theorem key : IsTextElement "key" .string := ⟨⟨by decide, by decide⟩, by decide⟩

theorem integer : IsTextElement "integer" .integer := ⟨⟨by decide, by decide⟩, by decide⟩

theorem real : IsTextElement "real" .real := ⟨⟨by decide, by decide⟩, by decide⟩

theorem data : IsTextElement "data" .data := ⟨⟨by decide, by decide⟩, by decide⟩

end IsTextElement

theorem readInteger?_intDigits (value : Int64) :
    readInteger? (Decimal.intDigits value.toInt) = some (.ofInt64 value) := by
  have lower := Int64.le_toInt value
  have upper := Int64.toInt_lt value
  have decimal : ∀ rest, Decimal.intDigits value.toInt ≠ '0' :: 'x' :: rest := by
    intro rest begins
    have member : 'x' ∈ Decimal.intDigits value.toInt := by
      rw [begins]
      exact List.mem_cons_of_mem _ List.mem_cons_self
    have digit := Decimal.isDigit_of_mem_intDigits member
    exact absurd digit (by decide)
  unfold readInteger?
  split
  · next rest begins => exact absurd begins (decimal rest)
  · rw [Decimal.readSigned?_intDigits lower upper]
    have fits : -0x8000000000000000 ≤ value.toInt ∧ value.toInt < 0x10000000000000000 := by omega
    exact dif_pos fits

section Lines

variable (depth : Nat)

/-- An element over several lines is an element whose text is the lines within. -/
theorem enclosing_lines (opened inside closed : List Char) :
    line depth opened ++ inside ++ line depth closed =
      line depth (opened ++ ('\n' :: (inside ++ List.replicate depth '\t')) ++ closed) := by
  simp only [line, List.append_assoc, List.cons_append, List.nil_append]

theorem mem_of_mem_stretches {length : Nat} {cs stretch : List Char}
    (held : stretch ∈ stretches length cs) : ∀ c ∈ stretch, c ∈ cs := by
  fun_induction stretches length cs with
  | case1 cs progress ih =>
    intro c member
    rcases List.mem_cons.mp held with rfl | later
    · exact List.mem_of_mem_take member
    · exact List.mem_of_mem_drop (ih later c member)
  | case2 cs done => cases held

theorem filter_tabs : (List.replicate depth '\t').filter (! Text.isAsciiBlank ·) = [] := by
  rw [List.filter_eq_nil_iff]
  intro c member
  rw [List.eq_of_mem_replicate member]
  decide

/-- The lines hold the characters of the text, and blanks. -/
theorem filter_stretchLines {length : Nat} (positive : 0 < length) (cs : List Char) :
    ((stretches length cs).flatMap (line depth)).filter (! Text.isAsciiBlank ·) =
      cs.filter (! Text.isAsciiBlank ·) := by
  have lineEnd : ['\n'].filter (! Text.isAsciiBlank ·) = [] := by decide
  fun_induction stretches length cs with
  | case1 cs progress ih =>
    rw [List.flatMap_cons, List.filter_append, ih, line, List.filter_append, List.filter_append,
      filter_tabs, lineEnd, List.nil_append, List.append_nil, ← List.filter_append,
      List.take_append_drop]
  | case2 cs done =>
    have empty : cs = [] := by
      by_contra more
      exact done ⟨more, positive⟩
    rw [empty]
    rfl

theorem mem_stretchLines {length : Nat} {cs : List Char} {c : Char}
    (member : c ∈ (stretches length cs).flatMap (line depth)) : c = '\t' ∨ c = '\n' ∨ c ∈ cs := by
  obtain ⟨stretch, held, inLine⟩ := List.mem_flatMap.mp member
  rcases List.mem_append.mp inLine with front | last
  · rcases List.mem_append.mp front with tab | letter
    · exact .inl (List.eq_of_mem_replicate tab)
    · exact .inr (.inr (mem_of_mem_stretches held c letter))
  · exact .inr (.inl (List.mem_singleton.mp last))

theorem reads_dataLines (bytes : List UInt8) :
    Reads (dataLines depth bytes) [.leaf (.data bytes)] := by
  have letters : ∀ c ∈ Bytes.Base64.encode bytes,
      Markup.endsText c = false ∧ Text.isAsciiBlank c = false :=
    Bytes.Base64.forall_mem_encode (by decide) (by decide) bytes
  let content : List Char :=
    '\n' :: ((stretches 68 (Bytes.Base64.encode bytes)).flatMap (line depth) ++
      List.replicate depth '\t')
  have inText : ∀ c ∈ content, Markup.endsText c = false := by
    intro c member
    rcases List.mem_cons.mp member with rfl | member
    · decide
    rcases List.mem_append.mp member with inLine | tab
    · rcases mem_stretchLines depth inLine with rfl | rfl | letter
      · decide
      · decide
      · exact (letters c letter).1
    · rw [List.eq_of_mem_replicate tab]
      decide
  have read : Field.read? .data content = some (.data bytes) := by
    have kept : content.filter (! Text.isAsciiBlank ·) = Bytes.Base64.encode bytes := by
      have noLineEnd : (! Text.isAsciiBlank '\n') = false := by decide
      simp only [content, List.filter_cons, noLineEnd, Bool.false_eq_true, ↓reduceIte,
        List.filter_append, filter_stretchLines depth (show 0 < 68 by decide), filter_tabs,
        List.append_nil]
      refine List.filter_eq_self.mpr fun c letter => ?_
      rw [(letters c letter).2, Bool.not_false]
    rw [Field.read?, kept, Bytes.Base64.decode?_encode, Option.map_some]
  rw [dataLines, enclosing_lines]
  refine Reads.line depth (IsTextElement.data.reads_enclosed ?_ read)
  intro names rest
  exact eventsFrom?_fieldText names .data [] inText rest

end Lines

/-- The scalar, with all missing numbers taken as the one that text can name. -/
def unifyNaN : Scalar → Scalar
  | .real value => .real value.unifyNaN
  | content => content

theorem reads_scalarLines (depth : Nat) (content : Scalar) :
    Reads (scalarLines depth content) (Event.ofNode (.scalar (unifyNaN content))) := by
  cases content with
  | boolean value => exact Reads.line depth (IsElement.truth value).reads_emptyTag
  | integer value =>
    refine IsTextElement.integer.reads_textLine depth ?_
    rw [Field.read?, readInteger?_intDigits]
    rfl
  | real value =>
    refine IsTextElement.real.reads_textLine depth ?_
    rw [Field.read?, Decimal.readReal?_render]
    rfl
  | string text =>
    refine IsTextElement.string.reads_textLine depth ?_
    rw [Field.read?, String.ofList_toList]
    rfl
  | data bytes => exact reads_dataLines depth bytes

theorem IsElement.reads_lines {name : String} {opened closed : List Event}
    (element : IsElement name opened closed) (depth : Nat) {cs : List Char} {events : List Event}
    (inside : Reads cs events) :
    Reads (line depth (openTag name) ++ cs ++ line depth (closeTag name))
      (opened ++ events ++ closed) := by
  have within := ((Reads.blank (c := '\n') (by decide)).append inside).append (Reads.tabs depth)
  rw [List.nil_append, List.append_nil] at within
  rw [enclosing_lines]
  exact Reads.line depth (element.reads_enclosed within)

mutual

/-- Every line that is written for a tree gives the events of the tree. -/
theorem reads_nodeLines : ∀ (depth : Nat) (node : Node),
    Reads (nodeLines depth node) (Event.ofNode (node.mapScalars unifyNaN))
  | depth, .dictionary ⟨[]⟩ => Reads.line depth IsElement.dictionary.reads_emptyTag
  | depth, .dictionary ⟨entry :: rest⟩ =>
    IsElement.dictionary.reads_lines depth (reads_entryLines (depth + 1) (entry :: rest))
  | depth, .sequence [] => Reads.line depth IsElement.array.reads_emptyTag
  | depth, .sequence (item :: rest) =>
    IsElement.array.reads_lines depth (reads_itemLines (depth + 1) (item :: rest))
  | depth, .scalar content => reads_scalarLines depth content

theorem reads_entryLines : ∀ (depth : Nat) (entries : List (String × Node)),
    Reads (entryLines depth entries) (Event.ofEntries (Node.mapEntries unifyNaN entries))
  | _, [] => Reads.nil
  | depth, (key, child) :: rest => by
    have readKey : Field.read? .string key.toList = some (.string key) := by
      rw [Field.read?, String.ofList_toList]
    rw [entryLines, List.append_assoc]
    exact (IsTextElement.key.reads_textLine depth readKey).append
      ((reads_nodeLines depth child).append (reads_entryLines depth rest))

theorem reads_itemLines : ∀ (depth : Nat) (items : List Node),
    Reads (itemLines depth items) (Event.ofItems (Node.mapItems unifyNaN items))
  | _, [] => Reads.nil
  | depth, item :: rest => (reads_nodeLines depth item).append (reads_itemLines depth rest)

end

theorem reads_of_skipped {cs : List Char}
    (skipped : ∀ rest, Markup.tokens? (cs ++ rest) = Markup.tokens? rest) : Reads cs [] := by
  intro names rest
  rw [eventsFrom?, skipped rest]
  exact Option.map_id_apply.symm

/-- The declaration of the version and the encoding. -/
theorem reads_declaration :
    Reads ('<' :: '?' :: ("xml version=\"1.0\" encoding=\"UTF-8\"".toList ++ ['?', '>'])) [] := by
  refine reads_of_skipped fun rest => ?_
  rw [List.cons_append, List.cons_append, List.append_assoc]
  exact Markup.tokens?_instruction (by decide) (by decide) rest

/-- The declaration of the document type; its two names stand in quotes. -/
theorem reads_doctype :
    Reads ('<' :: '!' :: ("DOCTYPE".toList ++ (" plist PUBLIC ".toList ++
      '"' :: ("-//Apple//DTD PLIST 1.0//EN".toList ++ '"' :: (" ".toList ++
        '"' :: ("http://www.apple.com/DTDs/PropertyList-1.0.dtd".toList ++ ['"', '>'])))))) [] := by
  refine reads_of_skipped fun rest => ?_
  simp only [List.cons_append, List.append_assoc]
  refine Markup.tokens?_doctype (fun begins => ?_) ?_ ?_
  · have first : (some 'p' : Option Char) = some '>' := begins
    exact absurd first (by decide)
  · rw [Markup.afterDoctype?_plain (by decide), Markup.afterDoctype?_quoted (by decide),
      Markup.afterDoctype?_plain (by decide), Markup.afterDoctype?_quoted (by decide)]
    rfl
  · simp only [List.length_append, List.length_cons]
    omega

/-- The tag of the outermost element has an attribute, which is not read. -/
theorem eventsFrom?_plistTag (names : List (List Char)) (rest : List Char) :
    eventsFrom? ⟨names, none⟩ ('<' :: ("plist version=\"1.0\"".toList ++ '>' :: rest)) =
      eventsFrom? ⟨"plist".toList :: names, none⟩ rest := by
  have markup : Markup.tokens? ('<' :: ("plist version=\"1.0\"".toList ++ '>' :: rest)) =
      (Markup.tokens? rest).map ([.opening "plist".toList] ++ ·) := by
    refine Markup.tokens?_of_step rfl ?_
    simp only [List.length_append, List.length_cons]
    omega
  rw [eventsFrom?_of_tokens markup (.single (IsElement.plist.opening names))]
  exact Option.map_id_apply

theorem header_eq :
    header =
      '<' :: '?' :: ("xml version=\"1.0\" encoding=\"UTF-8\"".toList ++ ['?', '>']) ++ ['\n'] ++
        '<' :: '!' :: ("DOCTYPE".toList ++ (" plist PUBLIC ".toList ++
          '"' :: ("-//Apple//DTD PLIST 1.0//EN".toList ++ '"' :: (" ".toList ++
            '"' :: ("http://www.apple.com/DTDs/PropertyList-1.0.dtd".toList ++ ['"', '>']))))) ++
        ['\n'] ++ '<' :: ("plist version=\"1.0\"".toList ++ ['>']) ++ ['\n'] := by
  decide +kernel

/-- The lines before the outermost value open its element and nothing else. -/
theorem eventsFrom?_header (rest : List Char) :
    eventsFrom? ⟨[], none⟩ (header ++ rest) = eventsFrom? ⟨["plist".toList], none⟩ rest := by
  have lineEnd : Reads ['\n'] [] := Reads.blank (by decide)
  have front : Reads _ [] :=
    ((reads_declaration.append lineEnd).append reads_doctype).append lineEnd
  have back := lineEnd ["plist".toList] rest
  rw [List.singleton_append] at back
  rw [header_eq, List.append_assoc, List.append_assoc, front [], List.cons_append,
    List.append_assoc, List.singleton_append, List.singleton_append, eventsFrom?_plistTag, back]
  simp only [List.nil_append, Option.map_id_fun', id_eq]

/-- The text of a tree gives the events of the tree. -/
theorem eventsFrom?_write (node : Node) :
    eventsFrom? ⟨[], none⟩ (write node) = some (Event.ofNode (node.mapScalars unifyNaN)) := by
  have last : eventsFrom? ⟨["plist".toList], none⟩ (closeTag "plist") = some [] := by
    have closing := eventsFrom?_closeTag IsElement.plist.plain (IsElement.plist.closing []) []
    have done : eventsFrom? ⟨[], none⟩ [] = some [] := by
      rw [eventsFrom?, Markup.tokens?_nil]
      rfl
    rwa [List.append_nil, done] at closing
  rw [write, List.append_assoc, eventsFrom?_header, reads_nodeLines, last, Option.map_some,
    List.append_nil]

/-- A text that is written begins with neither the mark of byte order nor a signature. -/
theorem write_begins (node : Node) :
    ∃ rest, write node = '<' :: '?' :: ("xml ve".toList ++ rest) := by
  have front : "xml version=\"1.0\" encoding=\"UTF-8\"".toList =
      "xml ve".toList ++ "rsion=\"1.0\" encoding=\"UTF-8\"".toList := by decide +kernel
  rw [write, header_eq, front]
  simp only [List.cons_append, List.append_assoc]
  exact ⟨_, rfl⟩

theorem readChars?_write {node : Node} (distinct : node.HasDistinctKeys) :
    readChars? (write node) = some (Value.ofNode (node.mapScalars unifyNaN)) := by
  have noMark : withoutByteOrderMark (write node) = write node := by
    obtain ⟨rest, begins⟩ := write_begins node
    rw [begins]
    rfl
  have events := eventsFrom?_write node
  unfold eventsFrom? at events
  rw [readChars?, noMark, events, Option.bind_some,
    Value.ofEvents?_ofNode (distinct.mapScalars unifyNaN)]

end BootSnapshot.PropertyList.Xml
