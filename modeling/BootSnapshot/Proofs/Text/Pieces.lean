import Mathlib.Data.List.DropRight
import BootSnapshot.Text.Blank
import BootSnapshot.Text.Pieces

set_option autoImplicit false

namespace BootSnapshot.Text

theorem pieces_eq_splitOn (separator : Char) (text : List Char) :
    pieces separator text = text.splitOn separator := by
  induction text with
  | nil => rfl
  | cons c rest ih =>
    rw [List.splitOn_cons_eq_if_modifyHead, ← ih, pieces]
    by_cases same : c = separator
    · simp only [same, ↓reduceIte, BEq.rfl]
    · simp only [same, ↓reduceIte, beq_eq_false_iff_ne.mpr same, Bool.false_eq_true]
      cases cut : pieces separator rest with
      | nil => exact absurd cut (pieces_ne_nil separator rest)
      | cons piece others => rfl

theorem pieces_of_not_mem {separator : Char} {text : List Char} (absent : separator ∉ text) :
    pieces separator text = [text] := by
  rw [pieces_eq_splitOn, List.splitOn_eq_singleton absent]

theorem pieces_append (separator : Char) (front back : List Char) :
    pieces separator (front ++ separator :: back) =
      pieces separator front ++ pieces separator back := by
  simp only [pieces_eq_splitOn, List.splitOn_append_cons_self]

/-- Texts without separators are the pieces of what they are joined to. -/
theorem pieces_intercalate {separator : Char} {texts : List (List Char)} (some : texts ≠ [])
    (absent : ∀ text ∈ texts, separator ∉ text) :
    pieces separator ([separator].intercalate texts) = texts := by
  rw [pieces_eq_splitOn, List.splitOn_intercalate separator absent some]

/-- The characters of the pieces are those of the text, without the separators. -/
theorem exists_mem_pieces_iff {separator c : Char} {text : List Char} :
    (∃ piece ∈ pieces separator text, c ∈ piece) ↔ c ∈ text ∧ c ≠ separator := by
  induction text with
  | nil => simp only [pieces, List.mem_singleton, exists_eq_left, List.not_mem_nil, false_and]
  | cons d rest ih =>
    rw [pieces]
    split
    · rename_i same
      rw [List.exists_mem_cons_iff, ih, List.mem_cons, or_and_right, same]
      simp only [List.not_mem_nil, and_not_self]
    · rename_i other
      cases cut : pieces separator rest with
      | nil => exact absurd cut (pieces_ne_nil separator rest)
      | cons first others =>
        rw [cut, List.exists_mem_cons_iff] at ih
        rw [List.exists_mem_cons_iff, List.mem_cons, or_assoc, ih, List.mem_cons, or_and_right]
        have self : c = d ∧ c ≠ separator ↔ c = d :=
          and_iff_left_of_imp fun same => same ▸ other
        rw [self]

theorem mem_of_mem_pieces {separator c : Char} {text piece : List Char}
    (member : piece ∈ pieces separator text) (inside : c ∈ piece) : c ∈ text :=
  (exists_mem_pieces_iff.mp ⟨piece, member, inside⟩).1

theorem not_mem_of_mem_pieces {separator : Char} {text piece : List Char}
    (member : piece ∈ pieces separator text) : separator ∉ piece :=
  fun inside => (exists_mem_pieces_iff.mp ⟨piece, member, inside⟩).2 rfl

/-- A piece stands in the text with other characters around it. -/
theorem sublist_of_mem_pieces {separator : Char} {text piece : List Char}
    (member : piece ∈ pieces separator text) : piece.Sublist text := by
  induction text generalizing piece with
  | nil => rw [List.mem_singleton.mp member]
  | cons c rest ih =>
    rw [pieces] at member
    split at member
    · rcases List.mem_cons.mp member with rfl | later
      · exact List.nil_sublist _
      · exact (ih later).cons c
    · cases cut : pieces separator rest with
      | nil => exact absurd cut (pieces_ne_nil separator rest)
      | cons first others =>
        rw [cut] at member ih
        rcases List.mem_cons.mp member with rfl | later
        · exact (ih List.mem_cons_self).cons_cons c
        · exact (ih (List.mem_cons_of_mem first later)).cons c

theorem pieces_eq_singleton_nil {separator : Char} {text : List Char}
    (empty : pieces separator text = [[]]) : text = [] := by
  have joined := intercalate_pieces separator text
  rw [empty] at joined
  exact joined.symm

/-- A text without a separator, or one with what follows its last separator. -/
theorem last_piece_cases (separator : Char) (text : List Char) :
    separator ∉ text ∨
      ∃ front last, text = front ++ separator :: last ∧ separator ∉ last := by
  by_cases member : separator ∈ text
  · obtain ⟨back, front, cut, absent⟩ := List.eq_append_cons_of_mem (List.mem_reverse.mpr member)
    have absent' : separator ∉ back.reverse := fun inside => absent (List.mem_reverse.mp inside)
    refine Or.inr ⟨front.reverse, back.reverse, ?_, absent'⟩
    have same := congrArg List.reverse cut
    simpa only [List.reverse_reverse, List.reverse_append, List.reverse_cons, List.append_assoc,
      List.singleton_append] using same
  · exact Or.inl member

/-- A text begins like its first piece, if that is not empty. -/
theorem head?_of_pieces {separator : Char} {text first : List Char} {others : List (List Char)}
    (cut : pieces separator text = first :: others) (filled : first ≠ []) :
    text.head? = first.head? := by
  rw [← intercalate_pieces separator text, cut]
  cases others with
  | nil => rw [List.intercalate_singleton]
  | cons next others =>
    rw [List.intercalate_cons_cons, List.append_assoc, List.head?_append_of_ne_nil _ filled]

/-- A text ends like its last piece, if that is not empty. -/
theorem getLast?_of_pieces {separator : Char} {text last : List Char}
    (ends : (pieces separator text).getLast? = some last) (filled : last ≠ []) :
    text.getLast? = last.getLast? := by
  rcases last_piece_cases separator text with absent | ⟨front, tail, rfl, absent⟩
  · rw [pieces_of_not_mem absent, List.getLast?_singleton, Option.some_inj] at ends
    rw [ends]
  · rw [pieces_append, pieces_of_not_mem absent, List.getLast?_concat, Option.some_inj] at ends
    subst ends
    rw [← List.singleton_append, ← List.append_assoc, List.getLast?_append_of_ne_nil _ filled]

/-- A text that neither begins nor ends with white space. -/
structure Trimmed (text : List Char) : Prop where
  head : ∀ c ∈ text.head?, isBlank c = false
  last : ∀ c ∈ text.getLast?, isBlank c = false

theorem Trimmed.trimChars_eq {text : List Char} (trimmed : Trimmed text) :
    trimChars text = text := by
  have front : text.dropWhile isBlank = text := by
    cases text with
    | nil => rfl
    | cons c rest => exact List.dropWhile_cons_of_neg (by simp [trimmed.head c rfl])
  have back : text.reverse.dropWhile isBlank = text.reverse := by
    cases ends : text.reverse with
    | nil => rfl
    | cons c rest =>
      have last : c ∈ text.getLast? := by
        rw [← List.head?_reverse, ends]
        rfl
      exact List.dropWhile_cons_of_neg (by simp [trimmed.last c last])
  unfold trimChars
  rw [front, back, List.reverse_reverse]

theorem isBlank_of_head?_dropWhile {text : List Char} {c : Char}
    (first : c ∈ (text.dropWhile isBlank).head?) : isBlank c = false := by
  have head := List.head?_dropWhile_not isBlank text
  rw [Option.mem_def.mp first] at head
  exact head

theorem trimmed_trimChars (text : List Char) : Trimmed (trimChars text) := by
  constructor
  · intro c first
    obtain ⟨rest, begins⟩ := List.head?_eq_some_iff.mp (Option.mem_def.mp first)
    have whole : trimChars text <+: text.dropWhile isBlank := List.rdropWhile_prefix isBlank _
    obtain ⟨cut, split⟩ := begins ▸ whole
    have head : c ∈ (text.dropWhile isBlank).head? := split ▸ Option.mem_def.mpr rfl
    exact isBlank_of_head?_dropWhile head
  · intro c last
    unfold trimChars at last
    rw [List.getLast?_reverse] at last
    exact isBlank_of_head?_dropWhile last

end BootSnapshot.Text
