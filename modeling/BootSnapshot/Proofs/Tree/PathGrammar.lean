import BootSnapshot.Proofs.Decimal.Numeral
import BootSnapshot.Proofs.Tree.BracketLoop

set_option autoImplicit false

namespace BootSnapshot.Path

open Text Decimal

/-- Numerals in brackets, one behind another, and the numbers that they stand for. -/
inductive Groups : List Char → List Nat → Prop
  | nil : Groups [] []
  | cons {text rest : List Char} {position : Nat} {positions : List Nat}
      (numeral : IsNumeral text position) (small : position < unsignedLimit)
      (others : Groups rest positions) :
      Groups ('[' :: text ++ ']' :: rest) (position :: positions)

/-- A text spells a part: a key without points and opening brackets, and indices behind it. -/
structure Part.SpelledBy (part : Part) (text : List Char) : Prop where
  named : part.name ≠ ""
  unpointed : '.' ∉ part.name.toList
  unbracketed : '[' ∉ part.name.toList
  groups : ∃ brackets, text = part.name.toList ++ brackets ∧ Groups brackets part.positions

/-- A text spells parts: one or more, with points between them. -/
def Spells (text : List Char) (parts : List Part) : Prop :=
  ∃ texts, texts ≠ [] ∧ text = ['.'].intercalate texts ∧
    List.Forall₂ (fun piece part => part.SpelledBy piece) texts parts

theorem mem_of_isNumeral {text : List Char} {n : Nat} (numeral : IsNumeral text n) {c : Char}
    (member : c ∈ text) : c = '+' ∨ c.isDigit = true := by
  obtain ⟨digits, rfl | rfl, -, decimal, -⟩ := numeral
  · exact Or.inr (decimal c member)
  · rcases List.mem_cons.mp member with sign | digit
    · exact Or.inl sign
    · exact Or.inr (decimal c digit)

theorem Groups.mem {brackets : List Char} {positions : List Nat}
    (groups : Groups brackets positions) {c : Char} (member : c ∈ brackets) :
    c = '[' ∨ c = '+' ∨ c.isDigit = true ∨ c = ']' := by
  induction groups with
  | nil => cases member
  | cons numeral small others ih =>
    rw [List.mem_append, List.mem_cons, List.mem_cons] at member
    rcases member with (opening | inside) | closing | later
    · exact Or.inl opening
    · rcases mem_of_isNumeral numeral inside with sign | digit
      · exact Or.inr (Or.inl sign)
      · exact Or.inr (Or.inr (Or.inl digit))
    · exact Or.inr (Or.inr (Or.inr closing))
    · exact ih later

theorem Groups.begins {brackets : List Char} {positions : List Nat}
    (groups : Groups brackets positions) : brackets = [] ∨ brackets.head? = some '[' := by
  cases groups with
  | nil => exact Or.inl rfl
  | cons => exact Or.inr rfl

theorem Groups.readIndices? {brackets : List Char} {positions : List Nat}
    (groups : Groups brackets positions) :
    Path.readIndices? none brackets = some positions := by
  induction groups with
  | nil => rfl
  | @cons text rest position positions numeral small others ih =>
    have unclosed : ']' ∉ text := by
      intro member
      exact absurd (mem_of_isNumeral numeral member) (by decide)
    have number := readUnsigned?_eq_some_iff.mpr ⟨numeral, small⟩
    show Path.readIndices? (some []) (text ++ ']' :: rest) = _
    rw [readIndices?_digits [] _ _ unclosed, List.reverse_nil, List.nil_append, number, ih]

/-- An open bracket is closed behind an index, and other indices follow. -/
theorem exists_group {inner : List Char} {positions : List Nat}
    (read : readIndices? (some []) inner = some positions) :
    ∃ text rest position others, inner = text ++ ']' :: rest ∧
      readUnsigned? 10 unsignedLimit text = some position ∧
      readIndices? none rest = some others ∧ positions = position :: others := by
  by_cases closed : ']' ∈ inner
  · obtain ⟨text, rest, rfl, unclosed⟩ := List.eq_append_cons_of_mem closed
    rw [readIndices?_digits [] text rest unclosed, List.reverse_nil, List.nil_append] at read
    split at read
    · rename_i position others number later
      exact ⟨text, rest, position, others, rfl, number, later, (Option.some_inj.mp read).symm⟩
    · cases read
  · rw [readIndices?_of_unclosed closed] at read
    cases read

theorem readIndices?_eq_some_iff {brackets : List Char} {positions : List Nat} :
    readIndices? none brackets = some positions ↔ Groups brackets positions := by
  refine ⟨fun read => ?_, Groups.readIndices?⟩
  induction positions generalizing brackets with
  | nil =>
    rw [eq_nil_of_readIndices? read]
    exact .nil
  | cons position positions ih =>
    cases brackets with
    | nil => cases read
    | cons c inner =>
      unfold readIndices? at read
      dsimp only at read
      split at read
      · rename_i opening
        obtain ⟨text, rest, position', others, rfl, number, later, same⟩ := exists_group read
        obtain ⟨rfl, rfl⟩ := List.cons.inj same
        obtain ⟨numeral, small⟩ := readUnsigned?_eq_some_iff.mp number
        rw [opening]
        exact .cons numeral small (ih later)
      · cases read

theorem Part.SpelledBy.point_not_mem {part : Part} {text : List Char}
    (spelled : part.SpelledBy text) : '.' ∉ text := by
  obtain ⟨brackets, rfl, groups⟩ := spelled.groups
  intro member
  rcases List.mem_append.mp member with name | index
  · exact spelled.unpointed name
  · exact absurd (groups.mem index) (by decide)

theorem readPart?_eq_some_iff {text : List Char} (unpointed : '.' ∉ text) {steps : Path} :
    readPart? text = some steps ↔ ∃ part : Part, part.SpelledBy text ∧ steps = part.steps := by
  constructor
  · intro read
    obtain ⟨part, reads, rfl⟩ := exists_readsAs read
    have plain := reads.plain unpointed
    refine ⟨part, ⟨plain.named, plain.unpointed, plain.unbracketed,
      text.dropWhile (· ≠ '['), ?_, readIndices?_eq_some_iff.mp reads.positions_eq⟩, rfl⟩
    rw [reads.name_eq, List.takeWhile_append_dropWhile]
  · rintro ⟨part, spelled, rfl⟩
    obtain ⟨brackets, rfl, groups⟩ := spelled.groups
    rw [readPart?_append spelled.named spelled.unbracketed groups.begins, groups.readIndices?]
    rfl

theorem readParts?_eq_some_iff {texts : List (List Char)} (unpointed : ∀ text ∈ texts, '.' ∉ text)
    {steps : Path} :
    readParts? texts = some steps ↔
      ∃ parts, List.Forall₂ (fun text part => Part.SpelledBy part text) texts parts ∧
        steps = ofParts parts := by
  induction texts generalizing steps with
  | nil =>
    constructor
    · intro read
      exact ⟨[], .nil, (Option.some_inj.mp read).symm⟩
    · rintro ⟨parts, spelled, rfl⟩
      cases spelled
      rfl
  | cons text rest ih =>
    obtain ⟨first, others⟩ := List.forall_mem_cons.mp unpointed
    constructor
    · intro read
      unfold readParts? at read
      split at read
      · rename_i steps later readFirst readLater
        obtain ⟨part, spelled, rfl⟩ := (readPart?_eq_some_iff first).mp readFirst
        obtain ⟨parts, spelledLater, rfl⟩ := (ih others).mp readLater
        exact ⟨part :: parts, .cons spelled spelledLater, (Option.some_inj.mp read).symm⟩
      · cases read
    · rintro ⟨parts, spelled, rfl⟩
      cases spelled with
      | @cons _ part _ parts spelled spelledLater =>
        have readFirst := (readPart?_eq_some_iff first).mpr ⟨part, spelled, rfl⟩
        have readLater := (ih others).mpr ⟨parts, spelledLater, rfl⟩
        simp only [readParts?, readFirst, readLater]
        rfl

/-- The pieces of a text between its points are read exactly if the text spells parts. -/
theorem readParts?_pieces_iff {text : List Char} {steps : Path} :
    readParts? (pieces '.' text) = some steps ↔
      ∃ parts, Spells text parts ∧ steps = ofParts parts := by
  have unpointed : ∀ piece ∈ pieces '.' text, '.' ∉ piece := fun _ => not_mem_of_mem_pieces
  rw [readParts?_eq_some_iff unpointed]
  refine exists_congr fun parts => and_congr_left fun _ => ?_
  constructor
  · intro spelled
    exact ⟨pieces '.' text, pieces_ne_nil '.' text, (intercalate_pieces '.' text).symm, spelled⟩
  · rintro ⟨texts, some, rfl, spelled⟩
    have absent : ∀ piece ∈ texts, '.' ∉ piece :=
      ((List.forall₂_and_left _ _).mp (spelled.imp fun _ _ by' => ⟨by'.point_not_mem, by'⟩)).1
    rwa [pieces_intercalate some absent]

/-- What trimming leaves out is white space. -/
theorem exists_blank_around (text : String) :
    ∃ front back, text.toList = front ++ (trim text).toList ++ back ∧
      ∀ c ∈ front ++ back, isBlank c = true := by
  let rest := text.toList.dropWhile isBlank
  have front : text.toList.takeWhile isBlank ++ rest = text.toList :=
    List.takeWhile_append_dropWhile
  have back : trimChars text.toList ++ (rest.reverse.takeWhile isBlank).reverse = rest := by
    rw [trimChars, ← List.reverse_append, List.takeWhile_append_dropWhile, List.reverse_reverse]
  refine ⟨text.toList.takeWhile isBlank, (rest.reverse.takeWhile isBlank).reverse, ?_, ?_⟩
  · rw [trim, String.toList_ofList, List.append_assoc, back, front]
  · intro c member
    rcases List.mem_append.mp member with before | behind
    · exact List.mem_takeWhile_imp before
    · exact List.mem_takeWhile_imp (List.mem_reverse.mp behind)

theorem read_eq (text : String) :
    read text =
      if trim text = "" ∨ trim text = "<root>" then .ok root
      else
        match readParts? (pieces '.' (trim text).toList) with
        | some path => .ok path
        | none => .error (.invalidPath (trim text)) := by
  have root : trim text = String.ofList rootName ↔ trimChars text.toList = rootName :=
    String.ofList_inj
  have named : (trimChars text.toList = [] ∨ trimChars text.toList = rootName) ↔
      (trim text = "" ∨ trim text = "<root>") :=
    or_congr String.ofList_eq_empty_iff.symm root.symm
  have chars : (trim text).toList = trimChars text.toList := String.toList_ofList
  unfold read
  rw [chars]
  dsimp only
  rw [readTrimmed?]
  by_cases isRoot : trim text = "" ∨ trim text = "<root>"
  · rw [if_pos (named.mpr isRoot), if_pos isRoot]
  · rw [if_neg (mt named.mp isRoot), if_neg isRoot]
    rfl

/-- Exactly the texts that spell the root or parts are read, white space at their ends aside. The
empty text and the name of the root are read as the root. Any other text is read if it spells parts,
and then as the steps of these parts, one behind another; it is reported without its white space if
it spells none. Reading by offsets comes to the same for every text in at most one round more than
there are closing brackets, and never cuts out of bounds. -/
theorem read_exactly_spelled (text : String) :
    (trim text = "" ∨ trim text = "<root>" → read text = .ok root) ∧
    (¬ (trim text = "" ∨ trim text = "<root>") →
      (∀ path, read text = .ok path ↔
        ∃ parts, Spells (trim text).toList parts ∧ path = ofParts parts) ∧
      ((¬ ∃ parts, Spells (trim text).toList parts) →
        read text = .error (.invalidPath (trim text))) ∧
      ∀ allowed, (trim text).toList.count ']' < allowed →
        readPartsByOffsets allowed (pieces '.' (trim text).toList) =
          some (orMalformed (read text).toOption)) ∧
    Trimmed (trim text).toList ∧
    ∃ front back,
      text.toList = front ++ (trim text).toList ++ back ∧ ∀ c ∈ front ++ back, isBlank c = true := by
  refine ⟨?_, ?_, ?_, exists_blank_around text⟩
  · intro named
    rw [read_eq, if_pos named]
  · intro below
    have whole := read_eq text
    rw [if_neg below] at whole
    refine ⟨?_, ?_, ?_⟩
    · intro path
      rw [← readParts?_pieces_iff, whole]
      split <;> simp only [*, Except.ok.injEq, Option.some_inj, reduceCtorEq]
    · intro unspelled
      cases read : readParts? (pieces '.' (trim text).toList) with
      | some path =>
        obtain ⟨parts, spells, -⟩ := readParts?_pieces_iff.mp read
        exact absurd ⟨parts, spells⟩ unspelled
      | none => rw [whole, read]
    · intro allowed enough
      have fewer : ∀ piece ∈ pieces '.' (trim text).toList, piece.count ']' < allowed :=
        fun piece member =>
          Nat.lt_of_le_of_lt ((sublist_of_mem_pieces member).count_le _) enough
      rw [readPartsByOffsets_eq fewer, whole]
      cases readParts? (pieces '.' (trim text).toList) <;> rfl
  · rw [trim, String.toList_ofList]
    exact trimmed_trimChars text.toList

/-- White space around a key with a closing bracket and a character of two bytes, and a sign and a
zero in brackets. -/
def awkwardText : String := " \u00E9].Add[+03][7]\t"

def awkwardParts : List Part := [⟨"\u00E9]", []⟩, ⟨"Add", [3, 7]⟩]

theorem awkwardParts_spelled : Spells (trim awkwardText).toList awkwardParts := by
  have first : Part.SpelledBy ⟨"\u00E9]", []⟩ ['\u00E9', ']'] :=
    ⟨by decide, by decide, by decide, [], by decide, .nil⟩
  have groups : Groups ['[', '+', '0', '3', ']', '[', '7', ']'] [3, 7] := by
    have three : IsNumeral ['+', '0', '3'] 3 :=
      ⟨['0', '3'], Or.inr rfl, List.cons_ne_nil _ _,
        List.forall_mem_cons.mpr ⟨rfl, List.forall_mem_singleton.mpr rfl⟩, rfl⟩
    have seven : IsNumeral ['7'] 7 :=
      ⟨['7'], Or.inl rfl, List.cons_ne_nil _ _, List.forall_mem_singleton.mpr rfl, rfl⟩
    exact .cons three (by decide) (.cons seven (by decide) .nil)
  have second : Part.SpelledBy ⟨"Add", [3, 7]⟩
      ("Add".toList ++ ['[', '+', '0', '3', ']', '[', '7', ']']) :=
    ⟨by decide, by decide, by decide, _, rfl, groups⟩
  exact ⟨_, List.cons_ne_nil _ _, by decide, .cons first (.cons second .nil)⟩

theorem awkwardText_read :
    trim awkwardText = "\u00E9].Add[+03][7]" ∧
    read awkwardText = .ok [.key "\u00E9]", .key "Add", .index 3, .index 7] ∧
    readPartsByOffsets 4 (pieces '.' (trim awkwardText).toList) =
      some (.ok [.key "\u00E9]", .key "Add", .index 3, .index 7]) ∧
    read "Add[1.2]" = .error (.invalidPath "Add[1.2]") ∧
    read " <root> " = .ok root := by
  obtain ⟨reads, -, offsets⟩ := (read_exactly_spelled awkwardText).2.1 (by decide)
  obtain ⟨refused, reported, -⟩ := (read_exactly_spelled "Add[1.2]").2.1 (by decide)
  have found := (reads _).mpr ⟨awkwardParts, awkwardParts_spelled, rfl⟩
  have loop := offsets 4 (by decide)
  rw [found] at loop
  refine ⟨by decide, found, loop, ?_, (read_exactly_spelled " <root> ").1 (by decide)⟩
  refine (reported fun ⟨parts, spells⟩ => ?_).trans (congrArg _ (by decide))
  have taken := (refused _).mpr ⟨parts, spells, rfl⟩
  have missing : (read "Add[1.2]").toOption = none := by decide
  rw [taken] at missing
  cases missing

end BootSnapshot.Path
