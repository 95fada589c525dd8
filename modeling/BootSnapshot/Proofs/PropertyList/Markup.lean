import Mathlib.Data.List.TakeWhile
import BootSnapshot.PropertyList.Markup

set_option autoImplicit false

namespace BootSnapshot.PropertyList.Markup

theorem tokens?_nil : tokens? [] = some [] := by
  rw [tokens?]

theorem tokens?_of_step {c : Char} {rest after : List Char} {found : List Token}
    (step : step? c rest = some (found, after)) (shorter : after.length ≤ rest.length) :
    tokens? (c :: rest) = (tokens? after).map (found ++ ·) := by
  rw [tokens?]
  simp only [step, shorter, ↓reduceDIte]

/-- Whether a character means nothing but itself in the name of a tag. -/
def isPlain (c : Char) : Bool :=
  ! (isGap c || c = '>' || c = '/' || c = '!' || c = '?' || c = '"' || c = '\x27')

/-- A name whose characters mean nothing but themselves. -/
structure IsPlainName (name : List Char) : Prop where
  nonempty : name ≠ []
  plain : name.all isPlain = true

namespace IsPlainName

variable {name : List Char}

theorem ne_of_mem (plainName : IsPlainName name) {c mark : Char} (member : c ∈ name)
    (isMark : isPlain mark = false) : c ≠ mark := by
  rintro rfl
  exact absurd (List.all_eq_true.mp plainName.plain c member) (by rw [isMark]; decide)

theorem isGap_of_mem (plainName : IsPlainName name) {c : Char} (member : c ∈ name) :
    isGap c = false := by
  have here := List.all_eq_true.mp plainName.plain c member
  simp only [isPlain, Bool.not_eq_true', Bool.or_eq_false_iff] at here
  exact here.1.1.1.1.1.1

theorem nameOf (plainName : IsPlainName name) : Markup.nameOf name = name := by
  refine List.takeWhile_eq_self_iff.mpr fun c member => ?_
  rw [plainName.isGap_of_mem member, Bool.not_false]

theorem closingName (plainName : IsPlainName name) : Markup.closingName name = name := by
  have kept : name.reverse.dropWhile isGap = name.reverse := by
    refine List.dropWhile_eq_self_iff.mpr fun inside => ?_
    have member := List.mem_reverse.mp (List.getElem_mem inside)
    rw [plainName.isGap_of_mem member]
    exact Bool.false_ne_true
  rw [Markup.closingName, kept, List.reverse_reverse]

theorem tagContent? (plainName : IsPlainName name) (behind : List Char) :
    Markup.tagContent? none (name ++ behind) =
      (Markup.tagContent? none behind).map fun found => (name ++ found.1, found.2) := by
  have plain : ∀ c ∈ name, c ≠ '>' ∧ openQuote none c = none := by
    intro c member
    refine ⟨plainName.ne_of_mem member (by decide), if_neg ?_⟩
    rintro (quote | quote)
    · exact plainName.ne_of_mem member (by decide) quote
    · exact plainName.ne_of_mem member (by decide) quote
  clear plainName
  induction name with
  | nil => simp only [List.nil_append, Option.map_id_fun', id_eq]
  | cons c rest ih =>
    obtain ⟨⟨noEnd, noQuote⟩, others⟩ := List.forall_mem_cons.mp plain
    simp only [List.cons_append, Markup.tagContent?, noEnd, and_false, ↓reduceIte, noQuote,
      ih others, Option.map_map, Function.comp_def]

theorem cutAt? (plainName : IsPlainName name) (behind : List Char) :
    Markup.cutAt? '>' (name ++ '>' :: behind) = some (name, behind) := by
  have noEnd : ∀ c ∈ name, c ≠ '>' := fun c member => plainName.ne_of_mem member (by decide)
  clear plainName
  induction name with
  | nil => simp only [List.nil_append, Markup.cutAt?, ↓reduceIte]
  | cons c rest ih =>
    obtain ⟨here, others⟩ := List.forall_mem_cons.mp noEnd
    simp only [List.cons_append, Markup.cutAt?, here, ↓reduceIte, ih others, Option.map_some]

/-- Behind the angle bracket of a tag with a plain name nothing else begins. -/
theorem step?_tag (plainName : IsPlainName name) (behind : List Char) :
    step? '<' (name ++ behind) =
      (Markup.tagContent? none behind).map fun found => (ofTag (name ++ found.1), found.2) := by
  have content := plainName.tagContent? behind
  have noMark : ∀ c ∈ name, c ≠ '!' ∧ c ≠ '?' ∧ c ≠ '/' := fun c member =>
    ⟨plainName.ne_of_mem member (by decide), plainName.ne_of_mem member (by decide),
      plainName.ne_of_mem member (by decide)⟩
  have nonempty := plainName.nonempty
  clear plainName
  cases name with
  | nil => exact absurd rfl nonempty
  | cons first others =>
    obtain ⟨noDeclaration, noInstruction, noClosing⟩ := noMark first List.mem_cons_self
    rw [List.cons_append] at content ⊢
    unfold step?
    simp only [↓reduceIte]
    split
    · next begins => exact absurd (List.cons.inj begins).1 noDeclaration
    · next begins => exact absurd (List.cons.inj begins).1 noInstruction
    · next begins => exact absurd (List.cons.inj begins).1 noClosing
    · rw [content, Option.map_map, Function.comp_def]

theorem tokens?_opening (plainName : IsPlainName name) (rest : List Char) :
    tokens? ('<' :: (name ++ '>' :: rest)) = (tokens? rest).map ([.opening name] ++ ·) := by
  have noSlash : name.getLast? ≠ some '/' := by
    intro last
    exact plainName.ne_of_mem (List.mem_of_getLast? last) (by decide) rfl
  have tag : ofTag (name ++ []) = [.opening name] := by
    rw [List.append_nil, ofTag, if_neg noSlash, plainName.nameOf]
  refine tokens?_of_step ?_ (by simp only [List.length_append, List.length_cons]; omega)
  rw [plainName.step?_tag, Markup.tagContent?, if_pos ⟨rfl, rfl⟩, Option.map_some, tag]

theorem tokens?_empty (plainName : IsPlainName name) (rest : List Char) :
    tokens? ('<' :: (name ++ '/' :: '>' :: rest)) =
      (tokens? rest).map ([.opening name, .closing name] ++ ·) := by
  have tag : ofTag (name ++ ['/']) = [.opening name, .closing name] := by
    rw [ofTag, if_pos List.getLast?_concat, List.dropLast_concat, plainName.nameOf]
  refine tokens?_of_step ?_ (by simp only [List.length_append, List.length_cons]; omega)
  have content : Markup.tagContent? none ('/' :: '>' :: rest) = some (['/'], rest) := rfl
  rw [plainName.step?_tag, content, Option.map_some, tag]

theorem tokens?_closing (plainName : IsPlainName name) (rest : List Char) :
    tokens? ('<' :: '/' :: (name ++ '>' :: rest)) = (tokens? rest).map ([.closing name] ++ ·) := by
  refine tokens?_of_step ?_ (by simp only [List.length_append, List.length_cons]; omega)
  simp only [step?, ↓reduceIte, plainName.cutAt?, Option.map_some,
    plainName.closingName]

end IsPlainName

def inReference (c : Char) : Bool := ! (endsText c || c = ';')

/-- A reference ends at its first semicolon. -/
theorem tokens?_reference {name : List Char} (plain : name.all inReference = true)
    (rest : List Char) :
    tokens? ('&' :: (name ++ ';' :: rest)) = (tokens? rest).map ([.reference name] ++ ·) := by
  refine tokens?_of_step ?_ (by simp only [List.length_append, List.length_cons]; omega)
  have ends : (name ++ ';' :: rest).takeWhile inReference = name := by
    rw [List.takeWhile_append_of_pos (List.all_eq_true.mp plain),
      List.takeWhile_cons_of_neg (by decide), List.append_nil]
  have noTag : ¬ '&' = '<' := by decide
  unfold inReference at ends
  unfold step?
  simp only [noTag, ↓reduceIte, ends, List.drop_left]

/-- A stretch of text goes on to the next tag or reference. -/
theorem tokens?_text {c : Char} (inText : endsText c = false) (rest : List Char) :
    tokens? (c :: rest) =
      (tokens? (rest.dropWhile (! endsText ·))).map
        ([.text (c :: rest.takeWhile (! endsText ·))] ++ ·) := by
  have noMark : ¬ c = '<' ∧ ¬ c = '&' := by
    simpa only [endsText, Bool.or_eq_false_iff, decide_eq_false_iff_not] using inText
  have behind : rest.drop (rest.takeWhile (! endsText ·)).length =
      rest.dropWhile (! endsText ·) := by
    calc rest.drop (rest.takeWhile (! endsText ·)).length
        = (rest.takeWhile (! endsText ·) ++ rest.dropWhile (! endsText ·)).drop
            (rest.takeWhile (! endsText ·)).length := by rw [List.takeWhile_append_dropWhile]
      _ = rest.dropWhile (! endsText ·) := List.drop_left
  refine tokens?_of_step ?_ (List.dropWhile_sublist _).length_le
  simp only [step?, noMark, ↓reduceIte, behind]

/-- Markup between angle brackets that leaves no token. -/
theorem tokens?_skipped {cs after : List Char} (step : step? '<' cs = some ([], after))
    (shorter : after.length ≤ cs.length) : tokens? ('<' :: cs) = tokens? after := by
  rw [tokens?_of_step step shorter]
  exact Option.map_id_apply

theorem after?_instruction {content : List Char} (inside : '?' ∉ content) (rest : List Char) :
    after? ['?', '>'] (content ++ '?' :: '>' :: rest) = some rest := by
  induction content with
  | nil => rfl
  | cons c others ih =>
    have other : ('?' == c) = false := by
      rw [beq_eq_false_iff_ne]
      exact fun same => inside (same ▸ List.mem_cons_self)
    simp only [List.cons_append, after?, List.isPrefixOf, other, Bool.false_and, Bool.false_eq_true,
      ↓reduceIte, ih (List.not_mem_of_not_mem_cons inside)]

theorem tokens?_instruction {content : List Char} (begins : content.head? ≠ some '>')
    (inside : '?' ∉ content) (rest : List Char) :
    tokens? ('<' :: '?' :: (content ++ '?' :: '>' :: rest)) = tokens? rest := by
  have behind : afterInstruction? (content ++ '?' :: '>' :: rest) = some rest := by
    have found := after?_instruction inside rest
    cases content with
    | nil => exact found
    | cons c others =>
      have other : c ≠ '>' := fun same => begins (congrArg some same)
      unfold afterInstruction?
      split
      · next ends => exact absurd (List.cons.inj ends).1 other
      · exact found
  refine tokens?_skipped ?_ ?_
  · simp only [step?, ↓reduceIte, behind, Option.map_some]
  · simp only [List.length_cons, List.length_append]
    omega

theorem tokens?_doctype {cs after : List Char}
    (named : (cs.dropWhile isGap).head? ≠ some '>') (ends : afterDoctype? none cs = some after)
    (shorter : after.length ≤ cs.length) :
    tokens? ('<' :: '!' :: ("DOCTYPE".toList ++ cs)) = tokens? after := by
  have behind : afterDeclaration? ("DOCTYPE".toList ++ cs) = some after := by
    have noComment : ['-', '-'].isPrefixOf ("DOCTYPE".toList ++ cs) = false := rfl
    have noData : ['[', 'C', 'D', 'A', 'T', 'A', '['].isPrefixOf ("DOCTYPE".toList ++ cs) =
        false := rfl
    have keyword : ("DOCTYPE".toList ++ cs).drop 7 = cs := rfl
    have isDoctype : (("DOCTYPE".toList ++ cs).take 7).map Char.toUpper =
        ['D', 'O', 'C', 'T', 'Y', 'P', 'E'] := rfl
    unfold afterDeclaration?
    simp only [noComment, noData, Bool.false_eq_true, ↓reduceIte, isDoctype, keyword]
    split
    · next unnamed => exact absurd (congrArg List.head? unnamed) named
    · exact ends
  refine tokens?_skipped ?_ ?_
  · simp only [step?, ↓reduceIte, behind, Option.map_some]
  · simp only [List.length_cons, List.length_append]
    omega

/-- Whether a character neither ends a document type declaration nor begins a part of it. -/
def inDoctype (c : Char) : Bool := ! (c = '>' || c = '[' || c = '"' || c = '\x27')

theorem afterDoctype?_plain {cs : List Char} (plain : cs.all inDoctype = true)
    (rest : List Char) : afterDoctype? none (cs ++ rest) = afterDoctype? none rest := by
  induction cs with
  | nil => rfl
  | cons c others ih =>
    obtain ⟨here, plainOthers⟩ := Bool.and_eq_true_iff.mp plain
    simp only [inDoctype, Bool.not_eq_true', Bool.or_eq_false_iff, decide_eq_false_iff_not] at here
    obtain ⟨⟨⟨noEnd, noSubset⟩, noQuote⟩, noApostrophe⟩ := here
    simp only [List.cons_append, afterDoctype?, noEnd, noSubset, and_false, ↓reduceIte, openQuote,
      noQuote, noApostrophe, or_self, ih plainOthers]

theorem afterDoctype?_quoted {quoted : List Char} (inside : '"' ∉ quoted) (rest : List Char) :
    afterDoctype? none ('"' :: (quoted ++ '"' :: rest)) = afterDoctype? none rest := by
  have within : afterDoctype? (some '"') (quoted ++ '"' :: rest) = afterDoctype? none rest := by
    induction quoted with
    | nil => rfl
    | cons c others ih =>
      have other : ¬ c = '"' := fun same => inside (same ▸ List.mem_cons_self)
      have stays : openQuote (some '"') c = some '"' := if_neg other
      simp only [List.cons_append, afterDoctype?, Option.isNone_some, Bool.false_eq_true, false_and,
        ↓reduceIte, stays, ih (List.not_mem_of_not_mem_cons inside)]
  exact within

end BootSnapshot.PropertyList.Markup
