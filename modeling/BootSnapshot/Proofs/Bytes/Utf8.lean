import BootSnapshot.Bytes.Utf8

set_option autoImplicit false

namespace BootSnapshot.Bytes

/-- A character is found in front of whatever follows its bytes. -/
theorem firstChar?_append (c : Char) (rest : List UInt8) :
    firstChar? (String.utf8EncodeChar c ++ rest) = some c := by
  have fits : (String.utf8EncodeChar c).length ≤ 4 := by
    rw [String.length_utf8EncodeChar]
    exact c.utf8Size_le_four
  unfold firstChar?
  rw [List.take_append, List.take_of_length_le fits, List.toByteArray_append]
  exact ByteArray.utf8DecodeChar?_utf8EncodeChar_append

theorem chars?_append (c : Char) (rest : List UInt8) :
    chars? (String.utf8EncodeChar c ++ rest) = (chars? rest).map (c :: ·) := by
  have first := firstChar?_append c rest
  have size := String.length_utf8EncodeChar c
  have positive := c.utf8Size_pos
  generalize String.utf8EncodeChar c = encoded at first size
  cases encoded with
  | nil =>
    rw [List.length_nil] at size
    omega
  | cons byte others =>
    have behind : (others ++ rest).drop (c.utf8Size - 1) = rest := by
      rw [List.length_cons] at size
      exact List.drop_left' (by omega)
    rw [List.cons_append] at first
    rw [List.cons_append, chars?, first]
    simp only [behind]

/-- The bytes of a text stand for exactly its characters. -/
theorem chars?_utf8 (cs : List Char) : chars? (utf8 cs) = some cs := by
  induction cs with
  | nil => simp only [utf8, List.flatMap_nil, chars?]
  | cons c rest ih =>
    unfold utf8 at ih ⊢
    rw [List.flatMap_cons, chars?_append, ih, Option.map_some]

end BootSnapshot.Bytes
