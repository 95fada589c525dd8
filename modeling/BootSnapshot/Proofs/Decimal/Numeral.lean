import Mathlib.Data.Nat.Digits.Defs
import BootSnapshot.Decimal.Natural

set_option autoImplicit false

namespace BootSnapshot.Decimal

def numeralValue (digits : List Char) : Nat :=
  Nat.ofDigits 10 (digits.reverse.map fun c => c.toNat - '0'.toNat)

/-- One or more decimal digits that stand for a number, with or without a plus sign in front. -/
def IsNumeral (text : List Char) (n : Nat) : Prop :=
  ∃ digits, (text = digits ∨ text = '+' :: digits) ∧ digits ≠ [] ∧
    (∀ c ∈ digits, c.isDigit = true) ∧ n = numeralValue digits

theorem numeralValue_cons (c : Char) (rest : List Char) :
    numeralValue (c :: rest) = (c.toNat - '0'.toNat) * 10 ^ rest.length + numeralValue rest := by
  unfold numeralValue
  rw [List.reverse_cons, List.map_append, Nat.ofDigits_append, List.map_singleton,
    Nat.ofDigits_singleton, List.length_map, List.length_reverse, Nat.add_comm, Nat.mul_comm]

theorem digitValue?_eq_some_iff {c : Char} {digit : Nat} :
    digitValue? 10 c = some digit ↔ c.isDigit = true ∧ digit = c.toNat - '0'.toNat := by
  have zero : '0'.toNat = 48 := rfl
  have nine : '9'.toNat = 57 := rfl
  have decimal : ('0' ≤ c ∧ c ≤ '9') ↔ 48 ≤ c.toNat ∧ c.toNat ≤ 57 := Iff.rfl
  have small : ('a' ≤ c ∧ c ≤ 'z') ↔ 97 ≤ c.toNat ∧ c.toNat ≤ 122 := Iff.rfl
  have capital : ('A' ≤ c ∧ c ≤ 'Z') ↔ 65 ≤ c.toNat ∧ c.toNat ≤ 90 := Iff.rfl
  simp only [digitValue?, decimal, small, capital, Char.isDigit_iff_toNat, zero, nine]
  -- letters are worth ten or more, so that none is a digit here
  split_ifs <;> simp only [Option.some_inj, false_iff] <;> omega

theorem readOnto_eq_some_iff {digits : List Char} {value n : Nat} :
    readOnto 10 value digits = some n ↔
      (∀ c ∈ digits, c.isDigit = true) ∧ n = value * 10 ^ digits.length + numeralValue digits := by
  induction digits generalizing value with
  | nil =>
    have nothing : numeralValue [] = 0 := rfl
    simp only [readOnto, Option.some_inj, List.not_mem_nil, false_implies, implies_true, true_and,
      List.length_nil, Nat.pow_zero, Nat.mul_one, nothing, Nat.add_zero, eq_comm]
  | cons c rest ih =>
    have place (digit : Nat) : (value * 10 + digit) * 10 ^ rest.length =
        value * 10 ^ (rest.length + 1) + digit * 10 ^ rest.length := by
      rw [Nat.add_mul, Nat.mul_assoc, Nat.pow_succ']
    rw [List.forall_mem_cons, List.length_cons, numeralValue_cons, readOnto, ← Nat.add_assoc,
      ← place]
    cases worth : digitValue? 10 c with
    | none =>
      have other : ¬ c.isDigit = true := fun digit =>
        Option.some_ne_none _ ((digitValue?_eq_some_iff.mpr ⟨digit, rfl⟩).symm.trans worth)
      simp only [reduceCtorEq, other, false_and]
    | some digit =>
      obtain ⟨isDigit, rfl⟩ := digitValue?_eq_some_iff.mp worth
      simp only [ih, isDigit, true_and]

theorem readNat?_eq_some_iff {digits : List Char} {n : Nat} :
    readNat? 10 digits = some n ↔
      digits ≠ [] ∧ (∀ c ∈ digits, c.isDigit = true) ∧ n = numeralValue digits := by
  unfold readNat?
  split
  · rename_i empty
    simp only [reduceCtorEq, List.isEmpty_iff.mp empty, ne_eq, not_true, false_and]
  · rename_i filled
    have some : digits ≠ [] := fun empty => filled (List.isEmpty_iff.mpr empty)
    rw [readOnto_eq_some_iff, Nat.zero_mul, Nat.zero_add, and_iff_right some]

/-- What is read as an unsigned number below a limit. -/
theorem readUnsigned?_eq_some_iff {limit n : Nat} {text : List Char} :
    readUnsigned? 10 limit text = some n ↔ IsNumeral text n ∧ n < limit := by
  have read (digits : List Char) : (readNat? 10 digits).filter (· < limit) = some n ↔
      (digits ≠ [] ∧ (∀ c ∈ digits, c.isDigit = true) ∧ n = numeralValue digits) ∧ n < limit := by
    rw [Option.filter_eq_some_iff, readNat?_eq_some_iff, decide_eq_true_eq]
  unfold readUnsigned?
  dsimp only
  rw [read]
  refine and_congr_left fun _ => ?_
  split
  · rename_i digits
    constructor
    · intro read
      exact ⟨digits, Or.inr rfl, read⟩
    · rintro ⟨digits', rfl | signed, read⟩
      · exact absurd (read.2.1 '+' List.mem_cons_self) (by decide)
      · exact (List.cons.inj signed).2 ▸ read
  · rename_i unsigned
    constructor
    · intro read
      exact ⟨text, Or.inl rfl, read⟩
    · rintro ⟨digits, rfl | signed, read⟩
      · exact read
      · exact absurd signed (unsigned digits)

end BootSnapshot.Decimal
