set_option autoImplicit false

namespace BootSnapshot.Text

def pieces (separator : Char) : List Char → List (List Char)
  | [] => [[]]
  | c :: rest =>
    if c = separator then [] :: pieces separator rest
    else
      match pieces separator rest with
      | [] => [[c]]
      | piece :: others => (c :: piece) :: others

theorem pieces_ne_nil (separator : Char) (cs : List Char) : pieces separator cs ≠ [] := by
  cases cs with
  | nil => simp only [pieces, ne_eq, List.cons_ne_self, not_false_eq_true]
  | cons c rest =>
    simp only [pieces]
    split
    · exact List.cons_ne_nil _ _
    · split <;> exact List.cons_ne_nil _ _

theorem intercalate_pieces (separator : Char) (cs : List Char) :
    [separator].intercalate (pieces separator cs) = cs := by
  induction cs with
  | nil => rfl
  | cons c rest ih =>
    match cut : pieces separator rest with
    | [] => exact absurd cut (pieces_ne_nil separator rest)
    | piece :: others =>
      rw [cut] at ih
      by_cases same : c = separator
      · simp only [pieces, same, ↓reduceIte, cut, List.intercalate_cons_cons, ih,
          List.nil_append, List.singleton_append]
      · simp only [pieces, same, ↓reduceIte, cut]
        cases others with
        | nil => simpa only [List.intercalate_singleton] using congrArg (c :: ·) ih
        | cons next tail =>
          simpa only [List.intercalate_cons_cons, List.cons_append] using congrArg (c :: ·) ih

def split (separator : Char) (text : String) : List String :=
  (pieces separator text.toList).map String.ofList

/-- Lines of text, with a line feed between neighbours. -/
def lines (texts : List String) : String := "\n".intercalate texts

end BootSnapshot.Text
