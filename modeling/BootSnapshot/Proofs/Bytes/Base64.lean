import BootSnapshot.Bytes.Base64

set_option autoImplicit false

namespace BootSnapshot.Bytes.Base64

theorem value?_letter {value : Nat} (small : value < 64) : value? (letter value) = some value := by
  revert value
  decide

theorem letter_ne_padding {value : Nat} (small : value < 64) : letter value ≠ '=' := by
  revert value
  decide

theorem firstByte_split (a b : UInt8) :
    firstByte (a.toNat / 4) (a.toNat % 4 * 16 + b.toNat / 16) = a := by
  have bound := b.toNat_lt
  have whole : a.toNat / 4 * 4 + (a.toNat % 4 * 16 + b.toNat / 16) / 16 = a.toNat := by omega
  rw [firstByte, whole, UInt8.ofNat_toNat]

theorem secondByte_split (a b c : UInt8) :
    secondByte (a.toNat % 4 * 16 + b.toNat / 16) (b.toNat % 16 * 4 + c.toNat / 64) = b := by
  have bound := b.toNat_lt
  have bound' := c.toNat_lt
  have whole : (a.toNat % 4 * 16 + b.toNat / 16) % 16 * 16 + (b.toNat % 16 * 4 + c.toNat / 64) / 4 =
      b.toNat := by omega
  rw [secondByte, whole, UInt8.ofNat_toNat]

theorem thirdByte_split (b c : UInt8) :
    thirdByte (b.toNat % 16 * 4 + c.toNat / 64) (c.toNat % 64) = c := by
  have bound := c.toNat_lt
  have whole : (b.toNat % 16 * 4 + c.toNat / 64) % 4 * 64 + c.toNat % 64 = c.toNat := by omega
  rw [thirdByte, whole, UInt8.ofNat_toNat]

/-- The values that a byte and the one behind it give to letters, by the place of the first. -/
theorem letters_small (a b : UInt8) :
    a.toNat / 4 < 64 ∧ a.toNat % 4 * 16 + b.toNat / 16 < 64 ∧ a.toNat % 16 * 4 + b.toNat / 64 < 64 ∧
      a.toNat % 64 < 64 := by
  have bound := a.toNat_lt
  have bound' := b.toNat_lt
  omega

/-- A group of three bytes, and the shorter group at the end, gives back its bytes. -/
theorem decode?_encode (bytes : List UInt8) : decode? (encode bytes) = some bytes := by
  fun_induction encode bytes with
  | case1 => rfl
  | case2 a =>
    obtain ⟨first, second, -, -⟩ := letters_small a 0
    have unused : a.toNat % 4 * 16 % 16 = 0 := by omega
    have back := firstByte_split a 0
    simp only [UInt8.toNat_zero, Nat.zero_div, Nat.add_zero] at second back
    simp only [decode?, value?_letter first, value?_letter second, unused, ↓reduceIte, back]
  | case3 a b =>
    obtain ⟨first, second, -, -⟩ := letters_small a b
    obtain ⟨-, -, third, -⟩ := letters_small b 0
    have unused : b.toNat % 16 * 4 % 4 = 0 := by omega
    have back := secondByte_split a b 0
    simp only [UInt8.toNat_zero, Nat.zero_div, Nat.add_zero] at third back
    rw [decode?]
    · simp only [value?_letter first, value?_letter second, value?_letter third, unused, ↓reduceIte,
        firstByte_split, back]
    · exact letter_ne_padding third
  | case4 a b c rest ih =>
    obtain ⟨first, second, -, -⟩ := letters_small a b
    obtain ⟨-, -, third, -⟩ := letters_small b c
    obtain ⟨-, -, -, fourth⟩ := letters_small c 0
    rw [decode?]
    · simp only [value?_letter first, value?_letter second, value?_letter third,
        value?_letter fourth, ih, firstByte_split, secondByte_split, thirdByte_split]
    · intro _ padded _
      exact letter_ne_padding fourth padded
    · intro padded _
      exact letter_ne_padding fourth padded

/-- What holds of the letters and of the padding holds of every character of a written form. -/
theorem forall_mem_encode {property : Char → Prop} (padding : property '=')
    (letters : ∀ value < 64, property (letter value)) (bytes : List UInt8) :
    ∀ c ∈ encode bytes, property c := by
  fun_induction encode bytes with
  | case1 =>
    intro c member
    cases member
  | case2 a =>
    obtain ⟨first, second, -, -⟩ := letters_small a 0
    simp only [UInt8.toNat_zero, Nat.zero_div, Nat.add_zero] at second
    simp only [List.forall_mem_cons, List.not_mem_nil, false_implies, implies_true, and_true]
    exact ⟨letters _ first, letters _ second, padding, padding⟩
  | case3 a b =>
    obtain ⟨first, second, -, -⟩ := letters_small a b
    obtain ⟨-, -, third, -⟩ := letters_small b 0
    simp only [UInt8.toNat_zero, Nat.zero_div, Nat.add_zero] at third
    simp only [List.forall_mem_cons, List.not_mem_nil, false_implies, implies_true, and_true]
    exact ⟨letters _ first, letters _ second, letters _ third, padding⟩
  | case4 a b c rest ih =>
    obtain ⟨first, second, -, -⟩ := letters_small a b
    obtain ⟨-, -, third, -⟩ := letters_small b c
    obtain ⟨-, -, -, fourth⟩ := letters_small c 0
    simp only [List.forall_mem_cons]
    exact ⟨letters _ first, letters _ second, letters _ third, letters _ fourth, ih⟩

end BootSnapshot.Bytes.Base64
