set_option autoImplicit false

namespace BootSnapshot.Text

/-- Whether the code point of a character lies in one of the ranges, both ends included. -/
def inRanges (ranges : List (Nat × Nat)) (c : Char) : Bool :=
  ranges.any fun range => range.1 ≤ c.toNat && c.toNat ≤ range.2

end BootSnapshot.Text
