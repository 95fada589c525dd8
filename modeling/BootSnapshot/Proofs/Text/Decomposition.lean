import BootSnapshot.Text.Canonical
import Mathlib.Data.Nat.Bitwise

set_option autoImplicit false
set_option maxRecDepth 20000

namespace BootSnapshot.Text.Canonical

/-- A run of the table of decompositions lists a character. -/
def covers (code : Nat) (run : Nat × List (List Nat)) : Bool :=
  Nat.ble run.1 code && Nat.blt code (run.1 + run.2.length)

/-- The characters that runs list, as the bits of a number. -/
def listed (runs : List (Nat × List (List Nat))) : Nat :=
  runs.foldr (fun run rest => rest ||| ((1 <<< run.2.length - 1) <<< run.1)) 0

theorem covers_iff (code : Nat) (run : Nat × List (List Nat)) :
    covers code run = true ↔ run.1 ≤ code ∧ code < run.1 + run.2.length := by
  simp only [covers, Bool.and_eq_true, Nat.ble_eq, Nat.blt_eq]

/-- A look-up in the tables is checked through the set of all listed characters, kept as the bits of
one number. -/
theorem testBit_listed (runs : List (Nat × List (List Nat))) (code : Nat) :
    (listed runs).testBit code = runs.any (covers code) := by
  induction runs with
  | nil => exact Nat.zero_testBit code
  | cons run rest ih =>
    have bit : ((1 <<< run.2.length - 1) <<< run.1).testBit code = covers code run := by
      rw [Bool.eq_iff_iff, covers_iff, Nat.testBit_shiftLeft, Nat.one_shiftLeft,
        Nat.testBit_two_pow_sub_one]
      simp only [ge_iff_le, Bool.and_eq_true, decide_eq_true_eq]
      omega
    change (listed rest ||| (1 <<< run.2.length - 1) <<< run.1).testBit code = _
    rw [Nat.testBit_or, ih, bit, List.any_cons, Bool.or_comm]

/-- The images that a table gives for a character. -/
def imageIn? (runs : List (Nat × List (List Nat))) (code : Nat) : Option (List Nat) :=
  runs.findSome? fun (first, images) => if first ≤ code then images[code - first]? else none

theorem imageIn?_eq_find (runs : List (Nat × List (List Nat))) (code : Nat) :
    imageIn? runs code = (runs.find? (covers code)).bind fun run => run.2[code - run.1]? := by
  induction runs with
  | nil => rfl
  | cons run rest ih =>
    by_cases inside : covers code run = true
    · have bounds := (covers_iff code run).mp inside
      have within : code - run.1 < run.2.length := by omega
      simp only [imageIn?, List.findSome?_cons, bounds.1, ↓reduceIte,
        List.getElem?_eq_getElem within, List.find?_cons, inside, Option.bind_some]
    · have image : (if run.1 ≤ code then run.2[code - run.1]? else none) = none := by
        split
        · rename_i lower
          have upper : ¬ (run.1 ≤ code ∧ code < run.1 + run.2.length) := fun bounds =>
            inside ((covers_iff code run).mpr bounds)
          exact List.getElem?_eq_none (by omega)
        · rfl
      simp only [imageIn?, List.findSome?_cons, image, List.find?_cons, inside]
      exact ih

theorem imageIn?_eq_none (runs : List (Nat × List (List Nat))) (code : Nat)
    (outside : (listed runs).testBit code = false) : imageIn? runs code = none := by
  rw [testBit_listed, List.any_eq_false] at outside
  rw [imageIn?_eq_find, List.find?_eq_none.mpr outside, Option.bind_none]

theorem mem_of_imageIn? {runs : List (Nat × List (List Nat))} {code : Nat} {image : List Nat}
    (found : imageIn? runs code = some image) : ∃ run ∈ runs, image ∈ run.2 := by
  rw [imageIn?_eq_find, Option.bind_eq_some_iff] at found
  obtain ⟨run, member, place⟩ := found
  exact ⟨run, List.mem_of_find?_eq_some member, List.mem_of_getElem? place⟩

def Syllable (code : Nat) : Prop := 0xAC00 ≤ code ∧ code < 0xAC00 + 11172

theorem decomposition?_of_syllable {code : Nat} (syllable : Syllable code) :
    decomposition? code = some (decomposeSyllable code) := by
  simp only [decomposition?, syllable.1, syllable.2, and_self, ↓reduceIte]

theorem decomposition?_of_not_syllable {code : Nat} (other : ¬ Syllable code) :
    decomposition? code = imageIn? decompositions code := by
  have absent : ¬ (0xAC00 ≤ code ∧ code < 0xAC00 + 11172) := other
  simp only [decomposition?, absent, ↓reduceIte, imageIn?]

def codesOf (code : Nat) : List Nat :=
  if code < 0xC0 then [code] else (decomposition? code).getD [code]

theorem decomposeChar_eq (c : Char) : decomposeChar c = (codesOf c.toNat).map Char.ofNat := by
  unfold decomposeChar codesOf
  split
  · simp only [List.map_cons, Char.ofNat_toNat, List.map_nil]
  · cases decomposition? c.toNat with
    | none => simp only [Option.getD_none, List.map_cons, Char.ofNat_toNat, List.map_nil]
    | some codes => rfl

/-- A code point that stands for a character with no decomposition but itself. -/
structure Final (code : Nat) : Prop where
  valid : code.isValidChar
  other : ¬ Syllable code
  unlisted : (listed decompositions).testBit code = false

theorem codesOf_of_unlisted {code : Nat} (other : ¬ Syllable code)
    (unlisted : (listed decompositions).testBit code = false) : codesOf code = [code] := by
  unfold codesOf
  split
  · rfl
  · rw [decomposition?_of_not_syllable other, imageIn?_eq_none _ _ unlisted, Option.getD_none]

theorem Final.codesOf_eq {code : Nat} (final : Final code) : codesOf code = [code] :=
  codesOf_of_unlisted final.other final.unlisted

theorem toNat_ofNat {code : Nat} (valid : code.isValidChar) : (Char.ofNat code).toNat = code := by
  unfold Char.ofNat
  rw [dif_pos valid]
  rfl

theorem Final.decomposeChar_eq {code : Nat} (final : Final code) :
    decomposeChar (Char.ofNat code) = [Char.ofNat code] := by
  rw [Canonical.decomposeChar_eq, toNat_ofNat final.valid, final.codesOf_eq, List.map_cons,
    List.map_nil]

instance (code : Nat) : Decidable (Syllable code) := by unfold Syllable; infer_instance

instance (code : Nat) : Decidable (Final code) :=
  decidable_of_iff
    (code.isValidChar ∧ ¬ Syllable code ∧ (listed decompositions).testBit code = false)
    ⟨fun ⟨valid, other, unlisted⟩ => ⟨valid, other, unlisted⟩,
      fun final => ⟨final.valid, final.other, final.unlisted⟩⟩

theorem images_final :
    (decompositions.all fun run => run.2.all fun image => image.all fun code => Final code) = true := by
  decide +kernel

theorem final_of_image {run : Nat × List (List Nat)} {image : List Nat} {code : Nat}
    (listed : run ∈ decompositions) (place : image ∈ run.2) (member : code ∈ image) :
    Final code := by
  have images := List.all_eq_true.mp images_final run listed
  have codes := List.all_eq_true.mp images image place
  exact of_decide_eq_true (List.all_eq_true.mp codes code member)

theorem final_of_letter {code : Nat} (lower : 0x1100 ≤ code) (upper : code < 0x1200) :
    Final code := by
  have block : ∀ offset < 0x100, Final (0x1100 + offset) := by decide +kernel
  have final := block (code - 0x1100) (by omega)
  rwa [show 0x1100 + (code - 0x1100) = code by omega] at final

theorem letter_of_mem_syllable {code part : Nat} (syllable : Syllable code)
    (member : part ∈ decomposeSyllable code) : 0x1100 ≤ part ∧ part < 0x1200 := by
  obtain ⟨lower, upper⟩ := syllable
  simp only [decomposeSyllable] at member
  split at member
  · simp only [List.mem_cons, List.not_mem_nil, or_false] at member
    rcases member with leading | vowel <;> omega
  · simp only [List.mem_cons, List.not_mem_nil, or_false] at member
    rcases member with leading | vowel | final <;> omega

/-- A decomposition is full: what a character decomposes into does not decompose. -/
theorem decomposeChar_of_mem {c part : Char} (member : part ∈ decomposeChar c) :
    decomposeChar part = [part] := by
  rw [decomposeChar_eq, List.mem_map] at member
  obtain ⟨code, found, rfl⟩ := member
  unfold codesOf at found
  split at found
  · rename_i low
    rw [List.mem_singleton.mp found, Char.ofNat_toNat]
    simp only [decomposeChar, low, ↓reduceIte]
  · cases image : decomposition? c.toNat with
    | none =>
      rw [image, Option.getD_none, List.mem_singleton] at found
      rw [found, Char.ofNat_toNat]
      simp only [decomposeChar, image, ite_self]
    | some codes =>
      rw [image, Option.getD_some] at found
      have final : Final code := by
        by_cases syllable : Syllable c.toNat
        · rw [decomposition?_of_syllable syllable, Option.some_inj] at image
          have letter := letter_of_mem_syllable syllable (image ▸ found)
          exact final_of_letter letter.1 letter.2
        · rw [decomposition?_of_not_syllable syllable] at image
          obtain ⟨run, listed, place⟩ := mem_of_imageIn? image
          exact final_of_image listed place found
      exact final.decomposeChar_eq

theorem images_nonempty :
    (decompositions.all fun run => run.2.all fun image => image ≠ []) = true := by decide +kernel

/-- No character vanishes. -/
theorem decomposeChar_ne_nil (c : Char) : decomposeChar c ≠ [] := by
  rw [decomposeChar_eq, ne_eq, List.map_eq_nil_iff]
  unfold codesOf
  split
  · exact List.cons_ne_nil _ _
  · cases image : decomposition? c.toNat with
    | none => exact List.cons_ne_nil _ _
    | some codes =>
      rw [Option.getD_some]
      by_cases syllable : Syllable c.toNat
      · rw [decomposition?_of_syllable syllable, Option.some_inj] at image
        rw [← image]
        unfold decomposeSyllable
        dsimp only
        split <;> exact List.cons_ne_nil _ _
      · rw [decomposition?_of_not_syllable syllable] at image
        obtain ⟨run, listed, place⟩ := mem_of_imageIn? image
        have images := List.all_eq_true.mp images_nonempty run listed
        exact of_decide_eq_true (List.all_eq_true.mp images codes place)

/-- The code points of a decomposition, found in the run that covers the character. -/
def imageOf (code : Nat) : List Nat :=
  bif Nat.blt code 0xC0 then [code]
  else
    bif (listed decompositions).testBit code then
      ((decompositions.find? (covers code)).bind fun run => run.2[code - run.1]?).getD [code]
    else [code]

theorem imageOf_eq {code : Nat} (other : ¬ Syllable code) : imageOf code = codesOf code := by
  unfold imageOf
  by_cases low : code < 0xC0
  · simp only [codesOf, low, ↓reduceIte, Nat.blt_eq.mpr low, cond_true]
  · have high : Nat.blt code 0xC0 = false := by
      rw [Bool.eq_false_iff, ne_eq, Nat.blt_eq]
      exact low
    rw [high, cond_false]
    cases bit : (listed decompositions).testBit code with
    | false => rw [cond_false, codesOf_of_unlisted other bit]
    | true =>
      rw [cond_true, ← imageIn?_eq_find, ← decomposition?_of_not_syllable other]
      simp only [codesOf, low, ↓reduceIte]

/-- A line of the table of compositions agrees with the table of decompositions. -/
def agrees (second : Nat) (pair : Nat × Nat) : Bool :=
  decide (pair.2.isValidChar ∧ ¬ Syllable pair.2 ∧ ¬ Syllable pair.1 ∧ ¬ Syllable second) &&
    imageOf pair.2 = imageOf pair.1 ++ imageOf second

theorem compositions_agree :
    (compositions.all fun row => row.2.all (agrees row.1)) = true := by decide +kernel

/-- Two code points with a composite, by the rule for syllables or by the table. -/
inductive Composes (first second : Nat) : Nat → Prop where
  | syllable {code : Nat} (composed : composeSyllable? first second = some code) :
      Composes first second code
  | row {pairs : List (Nat × Nat)} {code : Nat} (row : (second, pairs) ∈ compositions)
      (pair : (first, code) ∈ pairs) : Composes first second code

theorem mem_of_lookup {β : Type} {pairs : List (Nat × β)} {key : Nat} {value : β}
    (found : pairs.lookup key = some value) : (key, value) ∈ pairs := by
  obtain ⟨before, after, rfl, -⟩ := List.lookup_eq_some_iff.mp found
  exact List.mem_append_right before List.mem_cons_self

theorem composes_of_composite? {base mark whole : Char} (found : composite? base mark = some whole) :
    ∃ code, Composes base.toNat mark.toNat code ∧ whole = Char.ofNat code := by
  unfold composite? at found
  split at found
  · cases found
  · split at found
    · rename_i code composed
      exact ⟨code, .syllable composed, (Option.some_inj.mp found).symm⟩
    · split at found
      · rename_i pairs row
        obtain ⟨code, pair, same⟩ := Option.map_eq_some_iff.mp found
        exact ⟨code, .row (mem_of_lookup row) (mem_of_lookup pair), same.symm⟩
      · cases found

theorem codesOf_of_syllable {code : Nat} (syllable : Syllable code) :
    codesOf code = decomposeSyllable code := by
  have high : ¬ code < 0xC0 := by
    have lower : 0xAC00 ≤ code := syllable.1
    omega
  simp only [codesOf, high, ↓reduceIte, decomposition?_of_syllable syllable, Option.getD_some]

theorem letters_of_compose {first second code : Nat}
    (composed : composeSyllable? first second = some code) : 0x1100 ≤ first ∧ 0x1100 ≤ second := by
  unfold composeSyllable? at composed
  split at composed
  · omega
  · split at composed
    · omega
    · cases composed

/-- A composite syllable is a syllable, and it falls into the parts of the two. -/
theorem syllable_of_compose {first second code : Nat}
    (composed : composeSyllable? first second = some code) :
    Syllable code ∧ codesOf code = codesOf first ++ codesOf second := by
  unfold composeSyllable? at composed
  split at composed
  · rename_i letters
    have syllable : Syllable code := by
      have same := Option.some_inj.mp composed
      unfold Syllable
      omega
    have leading : codesOf first = [first] := (final_of_letter (by omega) (by omega)).codesOf_eq
    have vowel : codesOf second = [second] := (final_of_letter (by omega) (by omega)).codesOf_eq
    refine ⟨syllable, ?_⟩
    rw [codesOf_of_syllable syllable, leading, vowel]
    obtain rfl := Option.some_inj.mp composed
    have open' : (0xAC00 + ((first - 0x1100) * 21 + (second - 0x1161)) * 28 - 0xAC00) % 28 = 0 := by
      omega
    simp only [decomposeSyllable, open', ↓reduceIte, List.cons_append, List.nil_append,
      List.cons.injEq, and_true]
    omega
  · split at composed
    · rename_i letters
      have syllable : Syllable code := by
        have same := Option.some_inj.mp composed
        unfold Syllable
        omega
      have final : codesOf second = [second] := (final_of_letter (by omega) (by omega)).codesOf_eq
      refine ⟨syllable, ?_⟩
      rw [codesOf_of_syllable syllable, codesOf_of_syllable ⟨letters.1, letters.2.1⟩, final]
      obtain rfl := Option.some_inj.mp composed
      have closed : ¬ (first + (second - 0x11A7) - 0xAC00) % 28 = 0 := by omega
      simp only [decomposeSyllable, closed, letters.2.2.1, ↓reduceIte, List.cons_append,
        List.nil_append, List.cons.injEq, and_true]
      omega
    · cases composed

theorem Composes.agree {first second code : Nat} (composes : Composes first second code) :
    code.isValidChar ∧ codesOf code = codesOf first ++ codesOf second := by
  cases composes with
  | syllable composed =>
    have ⟨inside, image⟩ := syllable_of_compose composed
    refine ⟨Or.inl ?_, image⟩
    have upper : code < 0xAC00 + 11172 := inside.2
    omega
  | row row pair =>
    have rows := List.all_eq_true.mp compositions_agree _ row
    have agree := List.all_eq_true.mp rows _ pair
    simp only [agrees, Bool.and_eq_true, decide_eq_true_eq] at agree
    obtain ⟨⟨valid, whole, left, right⟩, image⟩ := agree
    rw [imageOf_eq whole, imageOf_eq left, imageOf_eq right] at image
    exact ⟨valid, image⟩

/-- A composite decomposes into what the two characters decompose into. -/
theorem decomposeChar_of_composite {base mark whole : Char}
    (found : composite? base mark = some whole) :
    decomposeChar whole = decomposeChar base ++ decomposeChar mark := by
  obtain ⟨code, composes, rfl⟩ := composes_of_composite? found
  have ⟨valid, image⟩ := composes.agree
  rw [decomposeChar_eq, decomposeChar_eq, decomposeChar_eq, toNat_ofNat valid, image,
    List.map_append]

end BootSnapshot.Text.Canonical
