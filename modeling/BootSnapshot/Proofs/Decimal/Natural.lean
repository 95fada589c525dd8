import Mathlib.Algebra.Group.Nat.Defs
import BootSnapshot.Decimal.Natural

set_option autoImplicit false

namespace BootSnapshot.Decimal

theorem digitValue?_digitChar {value : Nat} (small : value < 10) :
    digitValue? 10 (digitChar value) = some value := by
  revert value
  decide

theorem isDigit_digitChar {value : Nat} (small : value < 10) :
    (digitChar value).isDigit = true := by
  revert value
  decide

theorem natDigits_ne_nil (n : Nat) : natDigits n ≠ [] := by
  unfold natDigits
  split
  · exact List.cons_ne_nil _ _
  · exact List.append_ne_nil_of_right_ne_nil _ (List.cons_ne_nil _ _)

theorem isDigit_of_mem_natDigits {n : Nat} {c : Char} (member : c ∈ natDigits n) :
    c.isDigit = true := by
  fun_induction natDigits n with
  | case1 n small =>
    rw [List.mem_singleton.mp member]
    exact isDigit_digitChar small
  | case2 n large ih =>
    rcases List.mem_append.mp member with front | last
    · exact ih front
    · rw [List.mem_singleton.mp last]
      exact isDigit_digitChar (Nat.mod_lt n (by decide))

theorem isDigit_of_mem_intDigits {n : Int} {c : Char} (member : c ∈ intDigits n) :
    c = '-' ∨ c.isDigit = true := by
  unfold intDigits at member
  split at member
  · rcases List.mem_cons.mp member with sign | digit
    · exact .inl sign
    · exact .inr (isDigit_of_mem_natDigits digit)
  · exact .inr (isDigit_of_mem_natDigits member)

theorem readOnto_append (base value : Nat) (left right : List Char) :
    readOnto base value (left ++ right) =
      (readOnto base value left).bind fun read => readOnto base read right := by
  induction left generalizing value with
  | nil => rfl
  | cons c rest ih =>
    simp only [List.cons_append, readOnto]
    cases digitValue? base c with
    | none => rfl
    | some digit => exact ih (value * base + digit)

/-- The digits of a number stand for it. -/
theorem readOnto_natDigits (n : Nat) : readOnto 10 0 (natDigits n) = some n := by
  fun_induction natDigits n with
  | case1 n small => simp only [readOnto, digitValue?_digitChar small, Nat.zero_mul, Nat.zero_add]
  | case2 n large ih =>
    have last := digitValue?_digitChar (Nat.mod_lt n (show 0 < 10 by decide))
    rw [readOnto_append, ih, Option.bind_some]
    simp only [readOnto, last, Nat.div_add_mod']

/-- Zeros behind digits multiply their number by a power of ten. -/
theorem readOnto_zeros (value count : Nat) :
    readOnto 10 value (List.replicate count '0') = some (value * 10 ^ count) := by
  induction count generalizing value with
  | zero => simp only [List.replicate_zero, readOnto, Nat.pow_zero, Nat.mul_one]
  | succ count ih =>
    have zero : digitValue? 10 '0' = some 0 := by decide
    simp only [List.replicate_succ, readOnto, zero, Nat.add_zero, ih, Nat.pow_succ']
    rw [Nat.mul_assoc]

theorem readNat?_natDigits (n : Nat) : readNat? 10 (natDigits n) = some n := by
  rw [readNat?, if_neg, readOnto_natDigits]
  rw [List.isEmpty_iff]
  exact natDigits_ne_nil n

/-- A character that is no digit does not begin the digits of a number. -/
theorem natDigits_ne_cons {c : Char} (other : c.isDigit = false) (n : Nat) (rest : List Char) :
    natDigits n ≠ c :: rest := by
  intro begins
  have digit : c.isDigit = true := isDigit_of_mem_natDigits (begins ▸ List.mem_cons_self)
  exact absurd digit (by rw [other]; decide)

theorem readUnsigned?_natDigits {n limit : Nat} (small : n < limit) :
    readUnsigned? 10 limit (natDigits n) = some n := by
  unfold readUnsigned?
  split
  · next rest signed => exact absurd signed (natDigits_ne_cons (by decide) n rest)
  · simp only [readNat?_natDigits, Option.filter_some, decide_eq_true small, ↓reduceIte]

theorem readSigned?_intDigits {n : Int} (lower : -(signedLimit : Int) ≤ n)
    (upper : n < (signedLimit : Int)) : readSigned? (intDigits n) = some n := by
  unfold intDigits
  split
  · next negative =>
    have fits : n.natAbs ≤ signedLimit := by omega
    have back : -((n.natAbs : Nat) : Int) = n := by omega
    rw [readSigned?, readNat?_natDigits, Option.filter_some, if_pos (decide_eq_true fits)]
    exact congrArg some back
  · next natural =>
    have fits : n.natAbs < signedLimit := by omega
    have back : ((n.natAbs : Nat) : Int) = n := by omega
    unfold readSigned?
    split
    · next rest signed => exact absurd signed (natDigits_ne_cons (by decide) n.natAbs rest)
    · rw [readUnsigned?_natDigits fits]
      exact congrArg some back

theorem lt_pow_length_natDigits (n : Nat) : n < 10 ^ (natDigits n).length := by
  fun_induction natDigits n with
  | case1 n small => simpa only [List.length_singleton, Nat.pow_one] using small
  | case2 n large ih =>
    rw [List.length_append, List.length_singleton, Nat.pow_succ]
    omega

theorem pow_length_natDigits_le {n : Nat} (positive : 0 < n) :
    10 ^ ((natDigits n).length - 1) ≤ n := by
  fun_induction natDigits n with
  | case1 n small =>
    rw [List.length_singleton, Nat.sub_self, Nat.pow_zero]
    exact positive
  | case2 n large ih =>
    have front := ih (by omega)
    have notEmpty := List.length_pos_iff.mpr (natDigits_ne_nil (n / 10))
    rw [List.length_append, List.length_singleton, Nat.add_sub_cancel]
    calc 10 ^ (natDigits (n / 10)).length
        = 10 ^ ((natDigits (n / 10)).length - 1) * 10 := by
          rw [← Nat.pow_succ, Nat.succ_eq_add_one, Nat.sub_add_cancel notEmpty]
      _ ≤ n / 10 * 10 := Nat.mul_le_mul_right 10 front
      _ ≤ n := Nat.div_mul_le_self n 10

end BootSnapshot.Decimal
