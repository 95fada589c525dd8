import Mathlib.Data.List.TakeWhile
import BootSnapshot.Proofs.Decimal.Shortest

set_option autoImplicit false

namespace BootSnapshot.Decimal

open NumberStyle

/-- The number, with all missing numbers taken as the one that text can name. -/
def Binary64.unifyNaN (x : Binary64) : Binary64 := if x.isNaN then nan false else x

theorem toLower_of_isDigit {c : Char} (digit : c.isDigit = true) : c.toLower = c := by
  have upper : c.val ≤ '9'.val := by
    simp only [Char.isDigit, Bool.and_eq_true, decide_eq_true_eq] at digit
    exact digit.2
  refine dif_neg fun capital => ?_
  have contradiction : 'A'.val ≤ '9'.val := UInt32.le_trans capital.1 upper
  exact absurd contradiction (by decide)

theorem spanDigits_append {digits : List Char} (areDigits : ∀ c ∈ digits, c.isDigit = true)
    (rest : List Char) :
    spanDigits (digits ++ rest) = (digits ++ (spanDigits rest).1, (spanDigits rest).2) := by
  simp only [spanDigits, List.span_eq_takeWhile_dropWhile,
    List.takeWhile_append_of_pos areDigits, List.dropWhile_append_of_pos areDigits]

theorem spanDigits_self {digits : List Char} (areDigits : ∀ c ∈ digits, c.isDigit = true) :
    spanDigits digits = (digits, []) := by
  have span := spanDigits_append areDigits []
  rw [List.append_nil] at span
  rw [span]
  exact congrArg (·, []) (List.append_nil digits)

theorem spanDigits_point {digits : List Char} (areDigits : ∀ c ∈ digits, c.isDigit = true)
    (rest : List Char) : spanDigits (digits ++ '.' :: rest) = (digits, '.' :: rest) := by
  rw [spanDigits_append areDigits]
  exact congrArg (·, '.' :: rest) (List.append_nil digits)

/-- Text that begins with a digit names neither infinity nor the missing number. -/
theorem map_toLower_ne {cs name : List Char} {mark : Char} (notDigit : mark.isDigit = false)
    (begins : ∀ c ∈ cs.head?, c.isDigit = true) : cs.map Char.toLower ≠ mark :: name := by
  intro same
  cases cs with
  | nil => cases same
  | cons c rest =>
    have digit := begins c rfl
    have first : c = mark := (toLower_of_isDigit digit).symm.trans (List.cons.inj same).1
    rw [first, notDigit] at digit
    exact Bool.false_ne_true digit

/-- Digits, with or without a point among them, are read as a decimal number. -/
theorem readMagnitude?_decimal (negative : Bool) {whole places cs : List Char} {n : Nat}
    (nonempty : whole ≠ []) (areDigits : ∀ c ∈ whole ++ places, c.isDigit = true)
    (read : readNat? 10 (whole ++ places) = some n)
    (text : cs = whole ∧ places = [] ∨ cs = whole ++ '.' :: places) :
    readMagnitude? negative cs =
      some (Binary64.ofDecimal negative n (-(places.length : Int))) := by
  obtain ⟨wholeDigits, placesDigits⟩ := List.forall_mem_append.mp areDigits
  have begins : ∀ c ∈ cs.head?, c.isDigit = true := by
    intro c first
    have front : cs.head? = whole.head? := by
      rcases text with ⟨rfl, -⟩ | rfl
      · rfl
      · exact List.head?_append_of_ne_nil whole nonempty
    rw [front] at first
    exact wholeDigits c (List.mem_of_mem_head? first)
  have noName : ¬ (cs.map Char.toLower = ['i', 'n', 'f'] ∨
      cs.map Char.toLower = ['i', 'n', 'f', 'i', 'n', 'i', 't', 'y']) := by
    rintro (same | same)
    · exact map_toLower_ne (by decide) begins same
    · exact map_toLower_ne (by decide) begins same
  have notMissing : cs.map Char.toLower ≠ ['n', 'a', 'n'] := map_toLower_ne (by decide) begins
  have exponent : readExponent? [] = some 0 := rfl
  rw [readMagnitude?, if_neg noName, if_neg notMissing]
  rcases text with ⟨rfl, rfl⟩ | rfl
  · simp only [spanDigits_self wholeDigits, read, exponent, List.length_nil, Nat.cast_zero,
      zero_sub]
  · simp only [spanDigits_point wholeDigits, spanDigits_self placesDigits, read, exponent,
      zero_sub]

theorem isDigit_of_mem_zeros {count : Int} {c : Char} (member : c ∈ zeros count) :
    c.isDigit = true := by
  rw [List.eq_of_mem_replicate member]
  decide

theorem readNat?_of_readOnto {cs : List Char} {n : Nat} (nonempty : cs ≠ [])
    (read : readOnto 10 0 cs = some n) : readNat? 10 cs = some n := by
  rw [readNat?, if_neg, read]
  rwa [List.isEmpty_iff]

/-- Zeros behind the digits are read with them. -/
theorem readMagnitude?_whole (negative : Bool) (n : Nat) (count : Int) :
    readMagnitude? negative (natDigits n ++ zeros count) =
      some (Binary64.ofDecimal negative (n * 10 ^ count.toNat) 0) := by
  have nonempty : natDigits n ++ zeros count ≠ [] :=
    List.append_ne_nil_of_left_ne_nil (natDigits_ne_nil n) _
  have areDigits : ∀ c ∈ (natDigits n ++ zeros count) ++ [], c.isDigit = true := by
    intro c member
    rw [List.append_nil] at member
    exact (List.mem_append.mp member).elim isDigit_of_mem_natDigits isDigit_of_mem_zeros
  have read : readNat? 10 ((natDigits n ++ zeros count) ++ []) = some (n * 10 ^ count.toNat) := by
    refine readNat?_of_readOnto (by rwa [List.append_nil]) ?_
    rw [List.append_nil, readOnto_append, readOnto_natDigits, Option.bind_some, zeros,
      readOnto_zeros]
  exact readMagnitude?_decimal negative nonempty areDigits read (.inl ⟨rfl, rfl⟩)

/-- A point among the digits counts those behind it. -/
theorem readMagnitude?_point (negative : Bool) (n : Nat) {before : Nat} (positive : 0 < before) :
    readMagnitude? negative
        ((natDigits n).take before ++ ['.'] ++ (natDigits n).drop before) =
      some (Binary64.ofDecimal negative n (-((natDigits n).drop before).length)) := by
  have nonempty : (natDigits n).take before ≠ [] := by
    rw [ne_eq, List.take_eq_nil_iff]
    exact not_or.mpr ⟨by omega, natDigits_ne_nil n⟩
  have areDigits : ∀ c ∈ (natDigits n).take before ++ (natDigits n).drop before,
      c.isDigit = true := by
    rw [List.take_append_drop]
    exact fun c => isDigit_of_mem_natDigits
  have read : readNat? 10 ((natDigits n).take before ++ (natDigits n).drop before) = some n := by
    rw [List.take_append_drop, readNat?_natDigits]
  rw [List.append_assoc, List.singleton_append]
  exact readMagnitude?_decimal negative nonempty areDigits read (.inr rfl)

/-- Zeros in front of the digits count as places behind the point, and for nothing else. -/
theorem readMagnitude?_small (negative : Bool) (n : Nat) (count : Int) :
    readMagnitude? negative (['0', '.'] ++ zeros count ++ natDigits n) =
      some (Binary64.ofDecimal negative n (-(zeros count ++ natDigits n).length)) := by
  have areDigits : ∀ c ∈ ['0'] ++ (zeros count ++ natDigits n), c.isDigit = true := by
    intro c member
    rcases List.mem_append.mp member with zero | places
    · rw [List.mem_singleton.mp zero]
      decide
    · exact (List.mem_append.mp places).elim isDigit_of_mem_zeros isDigit_of_mem_natDigits
  have front : ['0'] ++ (zeros count ++ natDigits n) =
      List.replicate (count.toNat + 1) '0' ++ natDigits n := by
    rw [List.replicate_succ]
    rfl
  have read : readNat? 10 (['0'] ++ (zeros count ++ natDigits n)) = some n := by
    refine readNat?_of_readOnto (List.cons_ne_nil _ _) ?_
    rw [front, readOnto_append, readOnto_zeros, Option.bind_some, Nat.zero_mul, readOnto_natDigits]
  exact readMagnitude?_decimal negative (List.cons_ne_nil _ _) areDigits read (.inr rfl)

/-- The digits of a decimal number, laid out by its exponent, are read as a number equal to it. -/
theorem readMagnitude?_layPositional (negative : Bool) (d : Scaled) :
    ∃ read : Scaled, read.value = d.value ∧
      readMagnitude? negative (plain.layPositional (natDigits d.digits) d.exponent) =
        some (Binary64.ofDecimal negative read.digits read.exponent) := by
  unfold layPositional
  dsimp only
  split
  · next whole =>
    refine ⟨⟨d.digits * 10 ^ d.exponent.toNat, 0⟩, ?_, ?_⟩
    · obtain ⟨count, same⟩ := Int.eq_ofNat_of_zero_le whole
      rw [Scaled.value, Scaled.value, same, Int.toNat_natCast]
      push_cast
      rw [zpow_natCast, mul_one]
    · have noPoint : (if plain.pointZero then ['.', '0'] else []) = [] := rfl
      rw [noPoint, List.append_nil]
      exact readMagnitude?_whole negative d.digits d.exponent
  · next fractional =>
    refine ⟨d, rfl, ?_⟩
    split
    · next positive =>
      have places : -(((natDigits d.digits).drop
          (((natDigits d.digits).length : Int) + d.exponent).toNat).length : Int) = d.exponent := by
        rw [List.length_drop]
        omega
      rw [readMagnitude?_point negative d.digits (by omega), places]
    · next small =>
      have places : -((zeros (-(((natDigits d.digits).length : Int) + d.exponent)) ++
          natDigits d.digits).length : Int) = d.exponent := by
        rw [List.length_append, zeros, List.length_replicate]
        omega
      rw [readMagnitude?_small negative d.digits, places]

theorem mem_layPositional {n : Nat} {exponent : Int} {c : Char}
    (member : c ∈ plain.layPositional (natDigits n) exponent) : c.isDigit = true ∨ c = '.' := by
  have point {c : Char} (member : c ∈ ['.']) : c = '.' := List.mem_singleton.mp member
  unfold layPositional at member
  dsimp only at member
  split at member
  · have noPoint : (if plain.pointZero then ['.', '0'] else []) = [] := rfl
    rw [noPoint, List.append_nil, List.mem_append] at member
    exact .inl (member.elim isDigit_of_mem_natDigits isDigit_of_mem_zeros)
  · split at member
    · simp only [List.mem_append, or_assoc] at member
      rcases member with whole | mark | places
      · exact .inl (isDigit_of_mem_natDigits (List.mem_of_mem_take whole))
      · exact .inr (point mark)
      · exact .inl (isDigit_of_mem_natDigits (List.mem_of_mem_drop places))
    · simp only [List.mem_append, or_assoc] at member
      rcases member with front | zero | digit
      · rcases List.mem_cons.mp front with rfl | mark
        · exact .inl (by decide)
        · exact .inr (point mark)
      · exact .inl (isDigit_of_mem_zeros zero)
      · exact .inl (isDigit_of_mem_natDigits digit)

theorem magnitude_zero {x : Binary64} (zero : x.significand = 0) :
    plain.magnitude x = ['0'] ∧ x.magnitude = 0 := by
  refine ⟨(if_pos zero).trans rfl, ?_⟩
  unfold Binary64.significand at zero
  split at zero
  · next smallest => rw [Binary64.magnitude_eq_fields, smallest, zero, Nat.zero_mul]
  · exact absurd zero (Nat.ne_of_gt (Nat.add_pos_left (by decide) x.fraction))

theorem magnitude_nonzero {x : Binary64} (nonzero : 0 < x.significand) :
    plain.magnitude x =
      plain.layPositional (natDigits (x.shortest .upward).digits) (x.shortest .upward).exponent :=
  if_neg (Nat.ne_of_gt nonzero)

/-- The magnitude of a finite number is read as the number. -/
theorem readMagnitude?_magnitude {x : Binary64} (finite : x.isFinite = true) :
    readMagnitude? x.isNegative (plain.magnitude x) = some x := by
  rcases Nat.eq_zero_or_pos x.significand with zero | nonzero
  · obtain ⟨text, noBits⟩ := magnitude_zero zero
    have read : readMagnitude? x.isNegative ['0'] = some (.ofMagnitude x.isNegative 0) := rfl
    rw [text, read, ← noBits, Binary64.ofMagnitude_self]
  · obtain ⟨read, same, found⟩ := readMagnitude?_layPositional x.isNegative (x.shortest .upward)
    have inside : x.StandsFor read.value := by
      rw [same]
      exact Binary64.shortest_standsFor nonzero .upward
    rw [magnitude_nonzero nonzero, found, inside.ofDecimal_eq finite nonzero]

/-- A sign in front is read as the sign of what follows it. -/
theorem readReal?_signed (negative : Bool) {cs : List Char} (noMinus : cs.head? ≠ some '-')
    (noPlus : cs.head? ≠ some '+') :
    readReal? ((if negative then ['-'] else []) ++ cs) = readMagnitude? negative cs := by
  cases negative with
  | true => rfl
  | false =>
    change readReal? cs = readMagnitude? false cs
    unfold readReal?
    split
    · exact absurd rfl noMinus
    · exact absurd rfl noPlus
    · rfl

theorem head?_magnitude_ne (x : Binary64) {mark : Char}
    (other : ¬ (mark.isDigit = true ∨ mark = '.')) : (plain.magnitude x).head? ≠ some mark := by
  intro first
  have member : mark ∈ plain.magnitude x := List.mem_of_mem_head? first
  apply other
  rcases Nat.eq_zero_or_pos x.significand with zero | nonzero
  · rw [(magnitude_zero zero).1, List.mem_singleton] at member
    rw [member]
    exact .inl (by decide)
  · rw [magnitude_nonzero nonzero] at member
    exact mem_layPositional member

/-- Every number comes back from its text. -/
theorem readReal?_render (x : Binary64) : readReal? (plain.render x) = some x.unifyNaN := by
  unfold render Binary64.unifyNaN
  by_cases missing : x.isNaN = true
  · rw [if_pos missing, if_pos missing]
    rfl
  rw [if_neg missing, if_neg missing]
  by_cases infinite : x.isInfinite = true
  · have named : readMagnitude? x.isNegative ['i', 'n', 'f'] =
        some (Binary64.infinity x.isNegative) := rfl
    rw [if_pos infinite, readReal?_signed x.isNegative (by decide) (by decide),
      named, Binary64.infinity_self infinite]
  · rw [if_neg infinite, readReal?_signed x.isNegative
        (head?_magnitude_ne x (by decide)) (head?_magnitude_ne x (by decide)),
      readMagnitude?_magnitude (Binary64.isFinite_of_not missing infinite)]

end BootSnapshot.Decimal
