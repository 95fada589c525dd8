import BootSnapshot.Proofs.Component.CanonicalForm
import BootSnapshot.Proofs.FileSystem.DiskPath

set_option autoImplicit false

namespace BootSnapshot

namespace ComponentPath

open Text

theorem parts_nil : parts [] = [] := rfl

theorem parts_point : parts ['.'] = [] := by
  have whole : stretches ['.'] = [['.']] := rfl
  have skipped : isPart (Canonical.composed ['.']) = false := isPart_composed ['.']
  rw [parts_eq, whole, List.map_singleton, List.filter_cons_of_neg (by simp [skipped]),
    List.filter_nil]

theorem parts_slash : parts ['/'] = [] := parts_append (Or.inl rfl) [] []

theorem parts_joined (texts : List (List Char)) :
    parts (['/'].intercalate texts) = texts.flatMap parts := by
  induction texts with
  | nil => rfl
  | cons text rest ih =>
    cases rest with
    | nil => simp
    | cons next rest =>
      rw [List.intercalate_cons_cons, List.append_assoc, List.singleton_append,
        parts_append (Or.inl rfl), ih]
      rfl

theorem flatMap_pieces (path : List Char) : (pieces '/' path).flatMap parts = parts path := by
  rw [← parts_joined, intercalate_pieces]

/-- Stretches that lead nowhere have no parts. -/
theorem flatMap_filter_isStep (stretches : List (List Char)) :
    (stretches.filter isStep).flatMap parts = stretches.flatMap parts := by
  induction stretches with
  | nil => rfl
  | cons stretch rest ih =>
    cases step : isStep stretch with
    | true => rw [List.filter_cons_of_pos step, List.flatMap_cons, List.flatMap_cons, ih]
    | false =>
      have none : parts stretch = [] := by
        by_cases empty : stretch = []
        · rw [empty, parts_nil]
        · have point : stretch = ['.'] := by simpa [isStep, empty] using step
          rw [point, parts_point]
      rw [List.filter_cons_of_neg (by simp [step]), ih, List.flatMap_cons, none, List.nil_append]

end ComponentPath

namespace DiskPath

open Text ComponentPath

/-- The parts of a path by its spelling: the root if the path starts there, a point if it starts with
one, and behind it every stretch between slashes but empty ones and points. -/
def spelledSteps (path : String) : List (List Char) :=
  (if path.toList.head? = some '/' then [['/']]
    else if path.toList.takeWhile (· ≠ '/') = ['.'] then [['.']] else []) ++
  (path.toList.splitOn '/').filter fun stretch => stretch ≠ [] ∧ stretch ≠ ['.']

/-- The first stretch of a path goes on to the first slash. -/
theorem exists_others (path : List Char) :
    ∃ others, pieces '/' path = path.takeWhile (· ≠ '/') :: others := by
  induction path with
  | nil => exact ⟨[], rfl⟩
  | cons c rest ih =>
    obtain ⟨others, cut⟩ := ih
    by_cases slash : c = '/'
    · exact ⟨pieces '/' rest, by simp [pieces, slash]⟩
    · exact ⟨others, by simp [pieces, slash, cut]⟩

theorem fileParts_eq_spelledSteps (path : String) :
    fileParts path.toList = spelledSteps path := by
  have counts : (fun stretch => decide (stretch ≠ [] ∧ stretch ≠ ['.'])) = isStep := by
    funext stretch
    exact Bool.decide_and _ _
  unfold spelledSteps
  rw [counts, ← pieces_eq_splitOn]
  generalize path.toList = path
  cases path with
  | nil => rfl
  | cons c rest =>
    obtain ⟨others, cut⟩ := exists_others (c :: rest)
    rw [fileParts_of_pieces (List.cons_ne_nil c rest) cut, cut]
    by_cases root : c = '/'
    · simp [root, opening, isStep]
    · have filled : (c :: rest).takeWhile (· ≠ '/') ≠ [] := by simp [root]
      have relative : (c :: rest).head? ≠ some '/' := by simp [root]
      rw [opening, if_neg filled, if_neg relative]
      by_cases point : (c :: rest).takeWhile (· ≠ '/') = ['.']
      · rw [if_pos point, point]
        rfl
      · have step : isStep ((c :: rest).takeWhile (· ≠ '/')) = true := by
          simp only [isStep, ne_eq, filled, point, not_false_eq_true, decide_true, Bool.and_self]
        rw [if_neg point, List.filter_cons_of_pos step, List.nil_append]

/-- Leaving out the root, points and empty stretches leaves out no part. -/
theorem flatMap_fileParts (path : List Char) : (fileParts path).flatMap parts = parts path := by
  by_cases empty : path = []
  · rw [empty]
    rfl
  · obtain ⟨first, others, cut⟩ := exists_pieces path
    have opened : parts (opening first) = parts first := by
      unfold opening
      split
      · rename_i root
        rw [root, parts_slash, parts_nil]
      · rfl
    rw [fileParts_of_pieces empty cut, List.flatMap_cons, opened, flatMap_filter_isStep,
      ← List.flatMap_cons, ← cut, flatMap_pieces]

theorem below?_eq_none_iff {base path : List Char} :
    below? base path = none ↔ ¬ fileParts base <+: fileParts path := by
  rw [← List.isPrefixOf_iff_prefix, below?]
  split <;> simp [*]

theorem relative?_eq_none_iff {base path : String} :
    relative? base path = none ↔ ¬ spelledSteps base <+: spelledSteps path := by
  rw [relative?, Option.map_eq_none_iff, below?_eq_none_iff, fileParts_eq_spelledSteps,
    fileParts_eq_spelledSteps]

theorem partsOf_joined (texts : List (List Char)) :
    partsOf ("/".intercalate (texts.map String.ofList)) = texts.flatMap parts := by
  rw [partsOf, String.toList_intercalate, List.map_map, ← parts_joined]
  congr 2
  simp [Function.comp_def]

/-- A path joined to a base has the parts of the base and then others, and what these are as parts
of a component's path is what the path itself is. -/
theorem fileParts_join (base : String) {path : String} (relative : path.toList.head? ≠ some '/') :
    ∃ rest, fileParts (join base path).toList = fileParts base.toList ++ rest ∧
      rest.flatMap parts = parts path.toList := by
  rw [toList_join]
  by_cases empty : base.toList = []
  · refine ⟨fileParts path.toList, ?_, flatMap_fileParts path.toList⟩
    rw [joinChars, if_pos (Or.inr empty), empty]
    rfl
  · refine ⟨(pieces '/' path.toList).filter isStep,
      fileParts_joinChars_of_relative empty relative, ?_⟩
    rw [flatMap_filter_isStep, flatMap_pieces]

theorem relative?_join (base : String) {path : String} (relative : path.toList.head? ≠ some '/') :
    relative? base (join base path) = some (ComponentPath.normalize path) := by
  obtain ⟨rest, inside, same⟩ := fileParts_join base relative
  rw [relative?_of_append inside, Option.some_inj, normalize_eq_iff]
  exact (partsOf_joined rest).trans same

/-- Nothing leads from a base to a path whose parts do not begin with those of the base. Otherwise
the normal spelling of the parts that are left is what leads there, and what stands between its
slashes is found part by part: each is cut at slashes of either kind and composed by itself. So a
path that does not start at the root is recovered, in normal spelling, from where it leads to from
any base. -/
theorem relative?_recovers :
    (∀ base path, relative? base path = none ↔ ¬ spelledSteps base <+: spelledSteps path) ∧
    (∀ base path rest, spelledSteps path = spelledSteps base ++ rest →
      relative? base path =
        some (ComponentPath.normalize ("/".intercalate (rest.map String.ofList))) ∧
      components (ComponentPath.normalize ("/".intercalate (rest.map String.ofList))) =
        rest.flatMap fun step => spelledParts (String.ofList step)) ∧
    ∀ base path, path.toList.head? ≠ some '/' →
      relative? base (join base path) = some (ComponentPath.normalize path) := by
  refine ⟨fun _ _ => relative?_eq_none_iff, ?_, fun base _ => relative?_join base⟩
  intro base path rest inside
  rw [← fileParts_eq_spelledSteps, ← fileParts_eq_spelledSteps] at inside
  have each (step : List Char) : parts step = spelledParts (String.ofList step) := by
    rw [← partsOf_eq_spelledParts, partsOf, String.toList_ofList]
  refine ⟨relative?_of_append inside, ?_⟩
  rw [components_normalize, partsOf_joined, funext each]

/-- A base may end within a name, or be spelled otherwise than the path; and a path that leads up
and has points, slashes of both kinds and a letter of two characters is recovered. -/
theorem tablePath_recovered :
    relative? "/efi/OC/AC" "/efi/OC/ACPI/x.aml" = none ∧
    relative? "./efi/./OC//" "./efi/OC/sub\\.\\cafe\u0301//../x.aml/" =
      some "sub/café/../x.aml" ∧
    relative? "./efi/./OC//" (join "./efi/./OC//" "./sub\\.\\cafe\u0301//../x.aml/") =
      some "sub/café/../x.aml" := by
  obtain ⟨outside, inside, joined⟩ := relative?_recovers
  have left := inside "./efi/./OC//" "./efi/OC/sub\\.\\cafe\u0301//../x.aml/"
    ["sub\\.\\cafe\u0301".toList, "..".toList, "x.aml".toList] (by decide +kernel)
  have found := joined "./efi/./OC//" "./sub\\.\\cafe\u0301//../x.aml/" (by decide)
  refine ⟨(outside _ _).mpr (by decide +kernel), left.1.trans ?_, found.trans ?_⟩
  · decide +kernel
  · decide +kernel

end DiskPath
end BootSnapshot
