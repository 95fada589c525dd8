set_option autoImplicit false

namespace BootSnapshot

variable {α : Type}

/-- The list without the items that count as the same as the item kept before them. -/
def withoutRepeats (same : α → α → Bool) : List α → List α
  | [] => []
  | [item] => [item]
  | item :: next :: rest =>
    if same item next then withoutRepeats same (item :: rest)
    else item :: withoutRepeats same (next :: rest)

/-- Texts in the order of their characters' code points. -/
def sortTexts (texts : List String) : List String := texts.mergeSort (fun a b => a ≤ b)

/-- The texts of a list in order, each once. -/
def distinctTexts (texts : List String) : List String :=
  withoutRepeats (fun a b => a = b) (sortTexts texts)

end BootSnapshot
