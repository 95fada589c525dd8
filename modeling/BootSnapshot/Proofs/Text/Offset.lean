import BootSnapshot.Bytes.Utf8

set_option autoImplicit false

namespace BootSnapshot.Text

open Bytes

/-- A text cut at an offset; nothing if the offset is beyond the end or inside a character. -/
def cut? (offset : Nat) (text : List Char) : Option (List Char × List Char) :=
  if offset = 0 then some ([], text)
  else
    match text with
    | [] => none
    | c :: rest =>
      if offset < c.utf8Size then none
      else (cut? (offset - c.utf8Size) rest).map fun cut => (c :: cut.1, cut.2)

def offset? (c : Char) (text : List Char) : Option Nat :=
  if c ∈ text then some (utf8 (text.takeWhile (· ≠ c))).length else none

theorem length_utf8_cons (c : Char) (rest : List Char) :
    (utf8 (c :: rest)).length = c.utf8Size + (utf8 rest).length := by
  rw [utf8, List.flatMap_cons, List.length_append, String.length_utf8EncodeChar, utf8]

theorem length_utf8_append (front back : List Char) :
    (utf8 (front ++ back)).length = (utf8 front).length + (utf8 back).length := by
  rw [utf8, List.flatMap_append, List.length_append, utf8, utf8]

theorem cut?_append (front back : List Char) :
    cut? (utf8 front).length (front ++ back) = some (front, back) := by
  induction front with
  | nil => cases back <;> rfl
  | cons c rest ih =>
    have size := c.utf8Size_pos
    have some : ¬ c.utf8Size + (utf8 rest).length = 0 := by omega
    have whole : ¬ c.utf8Size + (utf8 rest).length < c.utf8Size := by omega
    rw [length_utf8_cons, List.cons_append, cut?, if_neg some]
    simp only [whole, ↓reduceIte, Nat.add_sub_cancel_left, ih, Option.map_some]

theorem offset?_append {c : Char} {front : List Char} (absent : c ∉ front) (back : List Char) :
    offset? c (front ++ c :: back) = some (utf8 front).length := by
  have others : ∀ d ∈ front, decide (d ≠ c) = true := by
    intro d member
    exact decide_eq_true fun same => absent (same ▸ member)
  have stops : (c :: back).takeWhile (· ≠ c) = [] :=
    List.takeWhile_cons_of_neg (by simp only [ne_eq, not_true, decide_false, Bool.false_eq_true,
      not_false_eq_true])
  have member : c ∈ front ++ c :: back := List.mem_append_right front List.mem_cons_self
  rw [offset?, if_pos member, List.takeWhile_append_of_pos others, stops, List.append_nil]

theorem offset?_of_not_mem {c : Char} {text : List Char} (absent : c ∉ text) :
    offset? c text = none := if_neg absent

end BootSnapshot.Text
