import BootSnapshot.Proofs.Component.CanonicalForm
import BootSnapshot.Proofs.Finding.Group
import BootSnapshot.Proofs.Merge.Duplicate

set_option autoImplicit false

namespace BootSnapshot

namespace KextPaths

open ComponentPath

/-- The parts of the path of a kext: those of its bundle, then those of its executable or, without
one, of its descriptor. -/
def components (kext : KextPaths) : List (List Char) :=
  ComponentPath.components (normalize kext.bundle) ++
    ComponentPath.components (normalize kext.qualifier)

theorem components_eq (kext : KextPaths) : kext.components = partsOf kext.qualifiedKey := by
  unfold components
  rw [partsOf_qualifiedKey, components_normalize, components_normalize]

theorem normalize_qualifiedKey (kext : KextPaths) :
    normalize kext.qualifiedKey = kext.qualifiedKey := normalize_normalize _

theorem qualifiedKey_eq_iff (one other : KextPaths) :
    one.qualifiedKey = other.qualifiedKey ↔ one.components = other.components := by
  rw [components_eq, components_eq, ← normalize_eq_iff, normalize_qualifiedKey,
    normalize_qualifiedKey]

theorem qualifiedKey_eq_empty_iff (kext : KextPaths) :
    kext.qualifiedKey = "" ↔ kext.components = [] := by
  rw [components_eq, ← normalize_eq_empty_iff, normalize_qualifiedKey]

end KextPaths

namespace Finding

open KextPaths

theorem duplicateKey?_kext {fields : Dictionary Node}
    (named : (fields.text? Field.bundlePath).isSome) :
    duplicateKey? .kernelAdd (.dictionary fields) =
      if (ofDictionary fields).components = [] then none
      else some (ofDictionary fields).qualifiedKey := by
  obtain ⟨bundle, text⟩ := Option.isSome_iff_exists.mp named
  rw [duplicateKey?, Merge.keyText?_kext, Merge.bundleOf?_dictionary, text, Option.map_some,
    Option.map_some]
  split
  · rename_i none
    rw [(qualifiedKey_eq_empty_iff _).mpr none]
    rfl
  · rename_i some
    apply Option.filter_some_pos
    exact decide_eq_true fun empty => some ((qualifiedKey_eq_empty_iff _).mp empty)

/-- Kexts have keys exactly if they name bundles and their paths have parts. -/
theorem isSome_duplicateKey?_kext_iff (item : Node) :
    (duplicateKey? .kernelAdd item).isSome ↔ ∃ fields, item = .dictionary fields ∧
      (fields.text? Field.bundlePath).isSome ∧ (ofDictionary fields).components ≠ [] := by
  cases shape : item.dictionary? with
  | none =>
    rw [Merge.duplicateKey?_kext_other shape]
    constructor
    · intro keyed
      cases keyed
    · rintro ⟨fields, rfl, -⟩
      cases shape
  | some fields =>
    obtain rfl := Node.eq_of_dictionary? shape
    by_cases named : (fields.text? Field.bundlePath).isSome
    · rw [duplicateKey?_kext named]
      simp only [Node.dictionary.injEq, exists_eq_left', named, true_and]
      split
      · rename_i none
        simp only [none, Option.isSome_none, Bool.false_eq_true, ne_eq, not_true_eq_false]
      · rename_i some
        simp only [some, Option.isSome_some, ne_eq, not_false_eq_true]
    · have missing : fields.text? Field.bundlePath = none := Option.not_isSome_iff_eq_none.mp named
      have keyless : duplicateKey? .kernelAdd (.dictionary fields) = none := by
        rw [duplicateKey?, Merge.keyText?_kext, Merge.bundleOf?_dictionary, missing]
        rfl
      simp only [keyless, Option.isSome_none, Bool.false_eq_true, Node.dictionary.injEq,
        exists_eq_left', named, false_and]

/-- Two kexts have one key exactly if their paths have the same parts. -/
theorem duplicateKey?_kext_eq_iff {fields fields' : Dictionary Node}
    (named : (fields.text? Field.bundlePath).isSome)
    (named' : (fields'.text? Field.bundlePath).isSome) :
    duplicateKey? .kernelAdd (.dictionary fields) =
        duplicateKey? .kernelAdd (.dictionary fields') ↔
      (ofDictionary fields).components = (ofDictionary fields').components := by
  rw [duplicateKey?_kext named, duplicateKey?_kext named']
  by_cases none : (ofDictionary fields).components = []
  · by_cases none' : (ofDictionary fields').components = []
    · simp only [none, none', ↓reduceIte]
    · simp only [none, none', ↓reduceIte, reduceCtorEq, Ne.symm none']
  · by_cases none' : (ofDictionary fields').components = []
    · simp only [none, none', ↓reduceIte, reduceCtorEq]
    · rw [if_neg none, if_neg none', Option.some_inj, qualifiedKey_eq_iff]

/-- The check for duplicates goes through the four lists and reports exactly the keys of several
items: each once, in the order of their first items. A finding is an error at the first of the
items, and tells all their positions, ascending, with their number. Two kexts that name bundles have
one key exactly if their paths have the same parts. -/
theorem duplicates_exact :
    (∀ document, duplicates document =
      [Target.acpiAdd, .kernelAdd, .uefiDrivers, .miscTools].flatMap fun target =>
        duplicatesOf target ((document.items? target).getD [])) ∧
    (∀ target items finding, finding ∈ duplicatesOf target items ↔ ∃ key,
      2 ≤ (positionsWith target items key).length ∧
        finding = .duplicate target key (positionsWith target items key)) ∧
    (∀ target items, (duplicatesOf target items).Pairwise fun one other => ∃ first later,
      first < later ∧ one.path = target.path ++ [.index first] ∧
        other.path = target.path ++ [.index later]) ∧
    (∀ target items key, (positionsWith target items key).Pairwise (· < ·) ∧
      ∀ index, index ∈ positionsWith target items key ↔
        (items[index]?).bind (duplicateKey? target) = some key) ∧
    (∀ target items key first rest, positionsWith target items key = first :: rest →
      let finding := Finding.duplicate target key (positionsWith target items key)
      finding.severity = .error ∧ finding.path = target.path ++ [.index first] ∧
        (∀ index ∈ rest, first < index) ∧
        finding.message = key ++ " appears " ++ Decimal.natText (rest.length + 1) ++
          " times in " ++ target.display ++ " (indices " ++
            ", ".intercalate ((first :: rest).map Decimal.natText) ++ ")") ∧
    (∀ item, (duplicateKey? .kernelAdd item).isSome ↔ ∃ fields, item = .dictionary fields ∧
      (fields.text? Field.bundlePath).isSome ∧ (ofDictionary fields).components ≠ []) ∧
    ∀ fields fields' : Dictionary Node, (fields.text? Field.bundlePath).isSome →
      (fields'.text? Field.bundlePath).isSome →
        (duplicateKey? .kernelAdd (.dictionary fields) =
            duplicateKey? .kernelAdd (.dictionary fields') ↔
          (ofDictionary fields).components = (ofDictionary fields').components) := by
  refine ⟨fun document => rfl, fun target items finding => mem_duplicatesOf_iff,
    pairwise_duplicatesOf, ?_, ?_, isSome_duplicateKey?_kext_iff, ?_⟩
  · exact fun target items key => ⟨pairwise_positionsWith target items key,
      fun index => mem_positionsWith⟩
  · intro target items key first rest positions
    have ascending := pairwise_positionsWith target items key
    rw [positions] at ascending ⊢
    exact ⟨rfl, rfl, (List.pairwise_cons.mp ascending).1, rfl⟩
  · exact fun fields fields' named named' => duplicateKey?_kext_eq_iff named named'

def kextFields (bundle executable plist : String) : Dictionary Node :=
  ⟨[(Field.bundlePath, .ofText bundle), (Field.executablePath, .ofText executable),
    (Field.plistPath, .ofText plist)]⟩

/-- Two spellings of one kext, a kext whose path has no parts between them, and an item that is no
kext. -/
def respelledKexts : List Node :=
  [.dictionary (kextFields "M.kext" "A/./B" "P"), .dictionary (kextFields "/./" "" "."),
    .dictionary (kextFields "M.kext\\A" "" "B"), .ofText "M.kext/A/B"]

theorem respelledKexts_reported :
    positionsWith .kernelAdd respelledKexts "M.kext/A/B" = [0, 2] ∧
    Finding.duplicate .kernelAdd "M.kext/A/B" [0, 2] ∈ duplicatesOf .kernelAdd respelledKexts ∧
    (Finding.duplicate .kernelAdd "M.kext/A/B" [0, 2]).message =
      "M.kext/A/B appears 2 times in Kernel.Add (indices 0, 2)" ∧
    (ofDictionary (kextFields "M.kext" "A/./B" "P")).components =
      (ofDictionary (kextFields "M.kext\\A" "" "B")).components := by
  obtain ⟨-, members, -, places, told, -, keys⟩ := duplicates_exact
  have positions : positionsWith .kernelAdd respelledKexts "M.kext/A/B" = [0, 2] := by
    decide +kernel
  have message := (told .kernelAdd respelledKexts "M.kext/A/B" 0 [2] positions).2.2.2
  have keyed := (places .kernelAdd respelledKexts "M.kext/A/B").2
  rw [positions] at message keyed
  have item : respelledKexts[0]? = some (.dictionary (kextFields "M.kext" "A/./B" "P")) := rfl
  have item' : respelledKexts[2]? = some (.dictionary (kextFields "M.kext\\A" "" "B")) := rfl
  have first := (keyed 0).mp (by decide)
  have second := (keyed 2).mp (by decide)
  rw [item, Option.bind_some] at first
  rw [item', Option.bind_some, ← first] at second
  refine ⟨positions, ?_, ?_, ?_⟩
  · refine (members .kernelAdd respelledKexts _).mpr ⟨"M.kext/A/B", ?_, ?_⟩ <;> rw [positions]
    decide
  · exact message.trans (by decide +kernel)
  · exact (keys _ _ rfl rfl).mp second.symm

end Finding
end BootSnapshot
