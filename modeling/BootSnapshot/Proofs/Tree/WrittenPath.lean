import Mathlib.Data.List.Forall2
import BootSnapshot.Proofs.Decimal.Natural
import BootSnapshot.Proofs.Text.Pieces
import BootSnapshot.Tree.Error

set_option autoImplicit false

namespace BootSnapshot.Path

open Text

/-- What stands between two points of a written path: a key and the indices behind it. -/
structure Part where
  name : String
  positions : List Nat

namespace Part

def steps (part : Part) : Path := .key part.name :: part.positions.map .index

def write (part : Part) : List Char := part.name.toList ++ writeSteps (part.positions.map .index)

/-- A part that is told by its written form, wherever it stands. -/
structure Plain (part : Part) : Prop where
  named : part.name ≠ ""
  unpointed : '.' ∉ part.name.toList
  unbracketed : '[' ∉ part.name.toList
  small : ∀ position ∈ part.positions, position < Decimal.unsignedLimit

end Part

def ofParts (parts : List Part) : Path := parts.flatMap Part.steps

theorem writeSteps_append (front back : Path) :
    writeSteps (front ++ back) = writeSteps front ++ writeSteps back := by
  induction front with
  | nil => rfl
  | cons step rest ih =>
    cases step with
    | key name => simp only [List.cons_append, writeSteps, ih, List.append_assoc]
    | index position => simp only [List.cons_append, writeSteps, ih, List.append_assoc]

theorem writeSteps_steps (part : Part) : writeSteps part.steps = '.' :: part.write := rfl

theorem writeSteps_ofParts (part : Part) (others : List Part) :
    writeSteps (ofParts (part :: others)) =
      '.' :: ['.'].intercalate ((part :: others).map Part.write) := by
  induction others generalizing part with
  | nil =>
    rw [ofParts, List.flatMap_singleton, List.map_singleton, List.intercalate_singleton]
    exact writeSteps_steps part
  | cons next others ih =>
    have front : ofParts (part :: next :: others) = part.steps ++ ofParts (next :: others) := rfl
    have joined : ['.'].intercalate ((part :: next :: others).map Part.write) =
        part.write ++ ['.'] ++ ['.'].intercalate ((next :: others).map Part.write) :=
      List.intercalate_cons_cons
    rw [front, writeSteps_append, ih next, writeSteps_steps, joined, List.append_assoc]
    rfl

/-- A first key has no point before it. -/
theorem writeSteps_key (name : String) (rest : Path) :
    writeSteps (.key name :: rest) = '.' :: write (.key name :: rest) := rfl

theorem write_ofParts (part : Part) (others : List Part) :
    write (ofParts (part :: others)) = ['.'].intercalate ((part :: others).map Part.write) := by
  have whole := writeSteps_ofParts part others
  have first : ofParts (part :: others) =
    .key part.name :: (part.positions.map .index ++ ofParts others) := rfl
  rw [first, writeSteps_key, ← first] at whole
  exact List.tail_eq_of_cons_eq whole

theorem mem_writeSteps_positions {positions : List Nat} {c : Char}
    (member : c ∈ writeSteps (positions.map .index)) : c = '[' ∨ c.isDigit = true ∨ c = ']' := by
  induction positions with
  | nil => cases member
  | cons position rest ih =>
    simp only [List.map_cons, writeSteps, List.mem_append, List.mem_cons] at member
    rcases member with (opening | digit) | closing | later
    · exact Or.inl opening
    · exact Or.inr (Or.inl (Decimal.isDigit_of_mem_natDigits digit))
    · exact Or.inr (Or.inr closing)
    · exact ih later

theorem Part.Plain.point_not_mem {part : Part} (plain : part.Plain) : '.' ∉ part.write := by
  intro member
  rcases List.mem_append.mp member with name | index
  · exact plain.unpointed name
  · exact absurd (mem_writeSteps_positions index) (by decide)

/-- Inside brackets, digits are collected up to the closing bracket. -/
theorem readIndices?_digits (held digits rest : List Char) (unclosed : ']' ∉ digits) :
    readIndices? (some held) (digits ++ ']' :: rest) =
      match Decimal.readUnsigned? 10 Decimal.unsignedLimit (held.reverse ++ digits),
        readIndices? none rest with
      | some position, some positions => some (position :: positions)
      | _, _ => none := by
  induction digits generalizing held with
  | nil =>
    rw [List.nil_append, List.append_nil, readIndices?]
    rfl
  | cons c digits ih =>
    have other : c ≠ ']' := fun same => unclosed (same ▸ List.mem_cons_self)
    have later : ']' ∉ digits := fun member => unclosed (List.mem_cons_of_mem c member)
    rw [List.cons_append, readIndices?]
    simp only [other, ↓reduceIte]
    rw [ih (c :: held) later, List.reverse_cons, List.append_assoc, List.singleton_append]

theorem readIndices?_writeSteps {positions : List Nat}
    (small : ∀ position ∈ positions, position < Decimal.unsignedLimit) :
    readIndices? none (writeSteps (positions.map .index)) = some positions := by
  induction positions with
  | nil => rfl
  | cons position rest ih =>
    have unclosed : ']' ∉ Decimal.natDigits position := by
      intro member
      exact absurd (Decimal.isDigit_of_mem_natDigits member) (by decide)
    have read := Decimal.readUnsigned?_natDigits (small position List.mem_cons_self)
    have others := ih fun other member => small other (List.mem_cons_of_mem position member)
    show readIndices? (some [])
      (Decimal.natDigits position ++ ']' :: writeSteps (rest.map .index)) = _
    rw [readIndices?_digits [] _ _ unclosed, List.reverse_nil, List.nil_append, read, others]

/-- A key without opening brackets is read up to the first one behind it. -/
theorem readPart?_append {name : String} {brackets : List Char} (named : name ≠ "")
    (unbracketed : '[' ∉ name.toList) (begins : brackets = [] ∨ brackets.head? = some '[') :
    readPart? (name.toList ++ brackets) =
      (readIndices? none brackets).map fun positions => .key name :: positions.map .index := by
  have key : ∀ c ∈ name.toList, decide (c ≠ '[') = true := by
    intro c member
    exact decide_eq_true fun same => unbracketed (same ▸ member)
  have stops : brackets.takeWhile (· ≠ '[') = [] ∧
      brackets.dropWhile (· ≠ '[') = brackets := by
    rcases begins with rfl | opened
    · exact ⟨rfl, rfl⟩
    · obtain ⟨rest, rfl⟩ := List.head?_eq_some_iff.mp opened
      exact ⟨rfl, rfl⟩
  have front : (name.toList ++ brackets).takeWhile (· ≠ '[') = name.toList := by
    rw [List.takeWhile_append_of_pos key, stops.1, List.append_nil]
  have back : (name.toList ++ brackets).dropWhile (· ≠ '[') = brackets := by
    rw [List.dropWhile_append_of_pos key, stops.2]
  have filled : name.toList.isEmpty = false := by
    rw [List.isEmpty_eq_false_iff, ne_eq, String.toList_eq_nil_iff]
    exact named
  simp only [readPart?, front, back, filled, Bool.false_eq_true, ↓reduceIte, String.ofList_toList]
  cases readIndices? none brackets <;> rfl

theorem Part.Plain.readPart?_write {part : Part} (plain : part.Plain) :
    readPart? part.write = some part.steps := by
  have begins : writeSteps (part.positions.map .index) = [] ∨
      (writeSteps (part.positions.map .index)).head? = some '[' := by
    cases part.positions with
    | nil => exact Or.inl rfl
    | cons position rest => exact Or.inr rfl
  rw [Part.write, readPart?_append plain.named plain.unbracketed begins,
    readIndices?_writeSteps plain.small]
  rfl

theorem readParts?_write {parts : List Part} (plain : ∀ part ∈ parts, part.Plain) :
    readParts? (parts.map Part.write) = some (ofParts parts) := by
  induction parts with
  | nil => rfl
  | cons part rest ih =>
    have first := (plain part List.mem_cons_self).readPart?_write
    have others := ih fun other member => plain other (List.mem_cons_of_mem part member)
    simp only [List.map_cons, readParts?, first, others]
    rfl

/-- The pieces of a written path between its points are its parts. -/
theorem readParts?_pieces {part : Part} {others : List Part}
    (plain : ∀ other ∈ part :: others, other.Plain) :
    readParts? (pieces '.' (write (ofParts (part :: others)))) =
      some (ofParts (part :: others)) := by
  rw [write_ofParts, pieces_intercalate, readParts?_write plain]
  · exact List.cons_ne_nil _ _
  · intro text member
    obtain ⟨other, inside, rfl⟩ := List.mem_map.mp member
    exact (plain other inside).point_not_mem

/-- A piece of text is read as a part. -/
structure ReadsAs (piece : List Char) (part : Part) : Prop where
  name_eq : part.name.toList = piece.takeWhile (· ≠ '[')
  positions_eq : readIndices? none (piece.dropWhile (· ≠ '[')) = some part.positions
  named : part.name ≠ ""

theorem exists_readsAs {piece : List Char} {steps : Path} (found : readPart? piece = some steps) :
    ∃ part, ReadsAs piece part ∧ steps = part.steps := by
  unfold readPart? at found
  dsimp only at found
  split at found
  · rename_i positions read
    split at found
    · cases found
    · rename_i filled
      refine ⟨⟨String.ofList (piece.takeWhile (· ≠ '[')), positions⟩, ⟨?_, read, ?_⟩, ?_⟩
      · exact String.toList_ofList
      · intro empty
        apply filled
        rw [List.isEmpty_iff, ← String.toList_ofList (l := piece.takeWhile _)]
        exact congrArg String.toList empty
      · exact (Option.some_inj.mp found).symm
  · cases found

theorem exists_parts_of_readParts? {texts : List (List Char)} {steps : Path}
    (found : readParts? texts = some steps) :
    ∃ parts, List.Forall₂ ReadsAs texts parts ∧ steps = ofParts parts := by
  induction texts generalizing steps with
  | nil => exact ⟨[], .nil, (Option.some_inj.mp found).symm⟩
  | cons piece rest ih =>
    unfold readParts? at found
    split at found
    · rename_i first others read readRest
      obtain ⟨part, reads, rfl⟩ := exists_readsAs read
      obtain ⟨parts, readsRest, rfl⟩ := ih readRest
      exact ⟨part :: parts, .cons reads readsRest, (Option.some_inj.mp found).symm⟩
    · cases found

theorem readUnsigned?_lt {base limit n : Nat} {cs : List Char}
    (read : Decimal.readUnsigned? base limit cs = some n) : n < limit :=
  of_decide_eq_true (Option.filter_eq_some_iff.mp read).2

theorem readIndices?_small {inside : Option (List Char)} {cs : List Char} {positions : List Nat}
    (read : readIndices? inside cs = some positions) :
    ∀ position ∈ positions, position < Decimal.unsignedLimit := by
  fun_induction readIndices? inside cs generalizing positions with
  | case1 inside closed =>
    rw [← Option.some_inj.mp read]
    intro position member
    cases member
  | case2 => cases read
  | case3 rest ih => exact ih read
  | case4 => cases read
  | case5 rest digits first others readOthers readFirst ih =>
    rw [← Option.some_inj.mp read]
    intro position member
    rcases List.mem_cons.mp member with rfl | later
    · exact readUnsigned?_lt readFirst
    · exact ih readOthers position later
  | case6 => cases read
  | case7 c rest digits other ih => exact ih read

/-- An open bracket is closed behind at least one index. -/
theorem readIndices?_ne_nil (held cs : List Char) : readIndices? (some held) cs ≠ some [] := by
  induction cs generalizing held with
  | nil => nofun
  | cons c rest ih =>
    unfold readIndices?
    dsimp only
    split
    · split <;> nofun
    · exact ih (c :: held)

theorem eq_nil_of_readIndices? {cs : List Char} (read : readIndices? none cs = some []) :
    cs = [] := by
  cases cs with
  | nil => rfl
  | cons c rest =>
    unfold readIndices? at read
    dsimp only at read
    split at read
    · exact absurd read (readIndices?_ne_nil [] rest)
    · cases read

namespace ReadsAs

variable {piece : List Char} {part : Part}

theorem plain (reads : ReadsAs piece part) (unpointed : '.' ∉ piece) : part.Plain where
  named := reads.named
  unpointed := by
    rw [reads.name_eq]
    exact fun member => unpointed (List.takeWhile_subset _ member)
  unbracketed := by
    rw [reads.name_eq]
    intro member
    have other := List.mem_takeWhile_imp member
    exact absurd rfl (of_decide_eq_true other)
  small := readIndices?_small reads.positions_eq

theorem name_ne_nil (reads : ReadsAs piece part) : part.name.toList ≠ [] := by
  rw [ne_eq, String.toList_eq_nil_iff]
  exact reads.named

/-- A piece begins with its key. -/
theorem head?_eq (reads : ReadsAs piece part) : piece.head? = part.name.toList.head? := by
  have filled := reads.name_ne_nil
  rw [reads.name_eq] at filled ⊢
  conv_lhs => rw [← List.takeWhile_append_dropWhile (p := fun c => decide (c ≠ '[')) (l := piece)]
  exact List.head?_append_of_ne_nil _ filled

/-- A key without indices is the whole piece. -/
theorem piece_eq (reads : ReadsAs piece part) (bare : part.positions = []) :
    piece = part.name.toList := by
  have read := reads.positions_eq
  rw [bare] at read
  rw [reads.name_eq]
  conv_lhs => rw [← List.takeWhile_append_dropWhile (p := fun c => decide (c ≠ '[')) (l := piece),
    eq_nil_of_readIndices? read, List.append_nil]

end ReadsAs

/-- A path below the root whose keys can be told in its written form: they are not empty and have no
point and no opening bracket, and the whole has no white space at its ends and is not the name of
the root. -/
structure Spelled (path : Path) : Prop where
  not_rootName : path ≠ [.key "<root>"]
  first : ∃ name, path.head? = some (.key name) ∧ ∀ c ∈ name.toList.head?, isBlank c = false
  keys : ∀ name, .key name ∈ path → name ≠ "" ∧ '.' ∉ name.toList ∧ '[' ∉ name.toList
  last : ∀ name, path.getLast? = some (.key name) →
    ∀ c ∈ name.toList.getLast?, isBlank c = false

/-- The root, or a path whose keys can be told. -/
def Legible (path : Path) : Prop := path = root ∨ path.Spelled

/-- Indices are numbers of 64 bits. -/
def Indexed (path : Path) : Prop :=
  ∀ position, .index position ∈ path → position < Decimal.unsignedLimit

theorem exists_parts (path : Path) :
    ∃ (positions : List Nat) (parts : List Part),
      path = positions.map .index ++ ofParts parts := by
  induction path with
  | nil => exact ⟨[], [], rfl⟩
  | cons step rest ih =>
    obtain ⟨positions, parts, rfl⟩ := ih
    cases step with
    | key name => exact ⟨[], ⟨name, positions⟩ :: parts, rfl⟩
    | index position => exact ⟨position :: positions, parts, rfl⟩

theorem key_mem_ofParts {parts : List Part} {name : String} :
    .key name ∈ ofParts parts ↔ ∃ part ∈ parts, part.name = name := by
  simp only [ofParts, List.mem_flatMap, Part.steps, List.mem_cons, Segment.key.injEq, List.mem_map,
    reduceCtorEq, and_false, exists_false, or_false, eq_comm]

theorem index_mem_ofParts {parts : List Part} {position : Nat} :
    .index position ∈ ofParts parts ↔ ∃ part ∈ parts, position ∈ part.positions := by
  simp only [ofParts, List.mem_flatMap, Part.steps, List.mem_cons, reduceCtorEq, List.mem_map,
    Segment.index.injEq, exists_eq_right, false_or]

/-- A legible path below the root consists of parts that are told by their written forms. -/
theorem Spelled.exists_plain {path : Path} (spelled : path.Spelled) (indexed : path.Indexed) :
    ∃ part others, path = ofParts (part :: others) ∧ ∀ other ∈ part :: others, other.Plain := by
  obtain ⟨positions, parts, rfl⟩ := exists_parts path
  obtain ⟨name, begins, -⟩ := spelled.first
  have bare : positions = [] := by
    cases positions with
    | nil => rfl
    | cons position rest => cases begins
  subst bare
  rw [List.map_nil, List.nil_append] at spelled indexed begins ⊢
  cases parts with
  | nil => cases begins
  | cons part others =>
    refine ⟨part, others, rfl, ?_⟩
    intro other member
    obtain ⟨named, unpointed, unbracketed⟩ :=
      spelled.keys other.name (key_mem_ofParts.mpr ⟨other, member, rfl⟩)
    refine ⟨named, unpointed, unbracketed, ?_⟩
    intro position inside
    exact indexed position (index_mem_ofParts.mpr ⟨other, member, inside⟩)

theorem head?_write {name : String} (rest : Path) (named : name ≠ "") :
    (write (.key name :: rest)).head? = name.toList.head? :=
  List.head?_append_of_ne_nil _ (fun empty => named (String.toList_eq_nil_iff.mp empty))

/-- The written form ends with its last key, or with the bracket of its last index. -/
theorem getLast?_writeSteps_key {name : String} (front : Path) (named : name ≠ "") :
    (writeSteps (front ++ [.key name])).getLast? = name.toList.getLast? := by
  have filled : name.toList ≠ [] := fun empty => named (String.toList_eq_nil_iff.mp empty)
  have last : writeSteps [.key name] = '.' :: name.toList := by
    rw [writeSteps_key, write, writeSteps, List.append_nil]
  rw [writeSteps_append, last, ← List.singleton_append, ← List.append_assoc,
    List.getLast?_append_of_ne_nil _ filled]

theorem getLast?_writeSteps_index (front : Path) (position : Nat) :
    (writeSteps (front ++ [.index position])).getLast? = some ']' := by
  have last : writeSteps [.index position] = '[' :: Decimal.natDigits position ++ [']'] := rfl
  rw [writeSteps_append, last, ← List.append_assoc, List.getLast?_concat]

theorem Spelled.trimmed {path : Path} (spelled : path.Spelled) : Trimmed path.write := by
  obtain ⟨first, begins, sharp⟩ := spelled.first
  obtain ⟨rest, rfl⟩ := List.head?_eq_some_iff.mp begins
  have named := (spelled.keys first List.mem_cons_self).1
  constructor
  · rw [head?_write rest named]
    exact sharp
  · intro c ends
    have ends' : c ∈ (writeSteps (.key first :: rest)).getLast? := by
      rw [writeSteps_key, List.getLast?_cons, Option.mem_def.mp ends]
      rfl
    obtain ⟨front, step, split⟩ :=
      (List.eq_nil_or_concat' (.key first :: rest)).resolve_left (List.cons_ne_nil _ _)
    rw [split] at ends'
    cases step with
    | key name =>
      have inside : .key name ∈ .key first :: rest :=
        split ▸ List.mem_append_right front List.mem_cons_self
      rw [getLast?_writeSteps_key front (spelled.keys name inside).1] at ends'
      exact spelled.last name (split ▸ List.getLast?_concat) c ends'
    | index position =>
      rw [getLast?_writeSteps_index, Option.mem_def, Option.some_inj] at ends'
      rw [← ends']
      decide

/-- A legible path below the root is read from its written form. -/
theorem Spelled.read_display {path : Path} (spelled : path.Spelled) (indexed : path.Indexed) :
    read path.display = .ok path := by
  obtain ⟨part, others, split, plain⟩ := spelled.exists_plain indexed
  have parts : readParts? (pieces '.' path.write) = some path := by
    rw [split]
    exact readParts?_pieces plain
  have below : ¬ (path.write = [] ∨ path.write = rootName) := by
    rintro (empty | name)
    · rw [empty] at parts
      cases parts
    · rw [name] at parts
      exact spelled.not_rootName (Option.some_inj.mp parts).symm
  have whole : readTrimmed? path.write = some path := by rw [readTrimmed?, if_neg below, parts]
  unfold read display
  rw [String.toList_ofList, spelled.trimmed.trimChars_eq]
  simp only [whole]

theorem getLast?_steps (part : Part) {name : String}
    (last : part.steps.getLast? = some (.key name)) : part.positions = [] ∧ part.name = name := by
  unfold Part.steps at last
  cases ends : part.positions.getLast? with
  | none =>
    have bare := List.getLast?_eq_none_iff.mp ends
    rw [bare] at last
    exact ⟨bare, Segment.key.inj (Option.some_inj.mp last)⟩
  | some position =>
    rw [List.getLast?_cons, List.getLast?_map, ends] at last
    cases last

/-- If the last step is a key, it is the last piece of the text. -/
theorem getLast?_of_readsAs {texts : List (List Char)} {parts : List Part}
    (reads : List.Forall₂ ReadsAs texts parts) {name : String}
    (last : (ofParts parts).getLast? = some (.key name)) :
    texts.getLast? = some name.toList ∧ name ≠ "" := by
  induction reads with
  | nil => cases last
  | cons first rest ih =>
    rename_i piece part texts parts
    cases rest with
    | nil =>
      rw [ofParts, List.flatMap_singleton] at last
      obtain ⟨bare, rfl⟩ := getLast?_steps part last
      rw [List.getLast?_singleton, first.piece_eq bare]
      exact ⟨rfl, first.named⟩
    | @cons piece' part' texts parts next later =>
      have split : ofParts (part :: part' :: parts) = part.steps ++ ofParts (part' :: parts) := rfl
      have filled : ofParts (part' :: parts) ≠ [] := List.cons_ne_nil _ _
      rw [split, List.getLast?_append_of_ne_nil _ filled] at last
      rw [List.getLast?_cons_cons]
      exact ih last

theorem exists_piece {texts : List (List Char)} {parts : List Part}
    (reads : List.Forall₂ ReadsAs texts parts) {part : Part} (member : part ∈ parts) :
    ∃ piece ∈ texts, ReadsAs piece part := by
  induction reads with
  | nil => cases member
  | cons first rest ih =>
    rcases List.mem_cons.mp member with rfl | later
    · exact ⟨_, List.mem_cons_self, first⟩
    · obtain ⟨piece, inside, found⟩ := ih later
      exact ⟨piece, List.mem_cons_of_mem _ inside, found⟩

variable {text : List Char} {parts : List Part}

theorem plain_of_readsAs (reads : List.Forall₂ ReadsAs (pieces '.' text) parts) :
    ∀ part ∈ parts, part.Plain := by
  intro part member
  obtain ⟨piece, inside, found⟩ := exists_piece reads member
  exact found.plain (not_mem_of_mem_pieces inside)

/-- Only the written form of a single key is read as that key. -/
theorem eq_of_readsAs_key {name : String} (reads : List.Forall₂ ReadsAs (pieces '.' text) parts)
    (single : ofParts parts = [.key name]) : text = name.toList := by
  rw [← intercalate_pieces '.' text]
  generalize pieces '.' text = texts at reads
  cases reads with
  | nil => cases single
  | @cons piece part texts others found later =>
    have split : part.positions.map .index ++ ofParts others = [] := (List.cons.inj single).2
    obtain ⟨bare, alone⟩ := List.append_eq_nil_iff.mp split
    have key : part.name = name := Segment.key.inj (List.cons.inj single).1
    cases later with
    | nil => rw [List.intercalate_singleton, found.piece_eq (List.map_eq_nil_iff.mp bare), key]
    | cons next rest => cases alone

theorem spelled_of_readsAs (trimmed : Trimmed text) (other : text ≠ rootName)
    (reads : List.Forall₂ ReadsAs (pieces '.' text) parts) : Spelled (ofParts parts) where
  not_rootName := by
    intro same
    exact other (eq_of_readsAs_key reads same)
  first := by
    obtain ⟨piece, others, cut⟩ := List.exists_cons_of_ne_nil (pieces_ne_nil '.' text)
    rw [cut] at reads
    cases reads with
    | @cons _ part _ parts found later =>
      refine ⟨part.name, rfl, ?_⟩
      have filled : piece ≠ [] := by
        rintro rfl
        exact found.name_ne_nil found.name_eq
      rw [← found.head?_eq, ← head?_of_pieces cut filled]
      exact trimmed.head
  keys := by
    intro name member
    obtain ⟨part, inside, rfl⟩ := key_mem_ofParts.mp member
    have plain := plain_of_readsAs reads part inside
    exact ⟨plain.named, plain.unpointed, plain.unbracketed⟩
  last := by
    intro name ends
    obtain ⟨piece, named⟩ := getLast?_of_readsAs reads ends
    have filled : name.toList ≠ [] := fun empty => named (String.toList_eq_nil_iff.mp empty)
    rw [← getLast?_of_pieces piece filled]
    exact trimmed.last

theorem indexed_of_plain (plain : ∀ part ∈ parts, part.Plain) : Indexed (ofParts parts) := by
  intro position member
  obtain ⟨part, inside, held⟩ := index_mem_ofParts.mp member
  exact (plain part inside).small position held

/-- What is read from a text can be told by its written form. -/
theorem legible_of_read {text : String} {path : Path} (found : read text = .ok path) :
    path.Legible ∧ path.Indexed := by
  unfold read at found
  dsimp only at found
  split at found
  · rename_i result read
    obtain rfl := Except.ok.inj found
    unfold readTrimmed? at read
    split at read
    · obtain rfl := Option.some_inj.mp read
      exact ⟨Or.inl rfl, fun position member => nomatch member⟩
    · rename_i below
      obtain ⟨parts, reads, rfl⟩ := exists_parts_of_readParts? read
      have other := fun name => below (Or.inr name)
      exact ⟨Or.inr (spelled_of_readsAs (trimmed_trimChars _) other reads),
        indexed_of_plain (plain_of_readsAs reads)⟩
  · cases found

theorem Legible.read_display {path : Path} (legible : path.Legible) (indexed : path.Indexed) :
    read path.display = .ok path := by
  rcases legible with rfl | spelled
  · rfl
  · exact spelled.read_display indexed

/-- A path with indices of 64 bits is read from its written form exactly if it is legible: it is the
root, or it is not the key that is written like the root, it begins with a key that does not begin
with white space, its keys are not empty and have no point and no opening bracket, and a key at its
end does not end with white space. Every path that is read from a text is legible, so that writing
and reading it again changes nothing. -/
theorem legible_iff_reads_back :
    (∀ path : Path, path.Indexed → (read path.display = .ok path ↔ path.Legible)) ∧
    (∀ text path, read text = .ok path → path.Legible ∧ path.Indexed) ∧
    ∀ text, ((read text).bind fun path => read path.display) = read text := by
  refine ⟨?_, ?_, ?_⟩
  · intro path indexed
    exact ⟨fun found => (legible_of_read found).1, fun legible => legible.read_display indexed⟩
  · intro text path found
    exact legible_of_read found
  · intro text
    cases found : read text with
    | error error => rfl
    | ok path =>
      obtain ⟨legible, indexed⟩ := legible_of_read found
      exact legible.read_display indexed

/-- Keys like the name of the root, with a closing bracket or with blanks inside the whole. -/
def awkwardPath : Path :=
  [.key "<root>", .index 18446744073709551615, .key " a] ", .key "b", .index 0, .index 7]

theorem awkwardPath_reads_back :
    awkwardPath.Indexed ∧ awkwardPath.Legible ∧ read awkwardPath.display = .ok awkwardPath ∧
      read " Add[+03] " = .ok [.key "Add", .index 3] ∧ Legible [.key "Add", .index 3] := by
  have indexed : awkwardPath.Indexed := by
    intro position member
    simp only [awkwardPath, List.mem_cons, reduceCtorEq, Segment.index.injEq, List.not_mem_nil,
      or_false, false_or] at member
    rcases member with rfl | rfl | rfl <;> decide
  have spelled : awkwardPath.Spelled := by
    refine ⟨by decide, ⟨"<root>", rfl, ?_⟩, ?_, ?_⟩
    · intro c begins
      obtain rfl := Option.some_inj.mp begins
      decide
    · intro name member
      simp only [awkwardPath, List.mem_cons, reduceCtorEq, Segment.key.injEq, List.not_mem_nil,
        or_false, false_or] at member
      rcases member with rfl | rfl | rfl <;> decide
    · intro name ends
      cases ends
  have found : read " Add[+03] " = .ok [.key "Add", .index 3] := by decide
  exact ⟨indexed, Or.inr spelled,
    (legible_iff_reads_back.1 awkwardPath indexed).mpr (Or.inr spelled),
    found, (legible_iff_reads_back.2.1 _ _ found).1⟩

end BootSnapshot.Path
