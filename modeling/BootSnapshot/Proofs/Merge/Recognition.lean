import BootSnapshot.Proofs.Merge.Kext
import BootSnapshot.Proofs.Tree.Dictionary
import BootSnapshot.Proofs.Tree.Entries

set_option autoImplicit false

namespace BootSnapshot

theorem Target.category_injective {one other : Target} (same : one.category = other.category) :
    one = other := by
  cases one <;> cases other <;> first | rfl | cases same

namespace ExistingEntry

def pathOf? (target : Target) (identity : KextIdentity) (node : Node) : Option String :=
  (project? target 0 node identity).map identifyingPath

theorem pathOf?_eq (target : Target) (identity : KextIdentity) (node : Node) :
    pathOf? target identity node =
      ((form? target identity node).map Prod.snd).filter fun path => path ≠ "" := by
  unfold pathOf? project?
  cases form? target identity node with
  | none => rfl
  | some known =>
    obtain ⟨form, path⟩ := known
    by_cases empty : path = ""
    · simp only [empty, ↓reduceIte, Option.map_none, Option.map_some, Option.filter_some, ne_eq,
        not_true_eq_false, decide_false, Bool.false_eq_true]
    · simp only [empty, ↓reduceIte, Option.map_some, Option.filter_some, ne_eq,
        not_false_eq_true, decide_true]

theorem pathOf?_kext (identity : KextIdentity) (fields : Dictionary Node) :
    pathOf? .kernelAdd identity (.dictionary fields) =
      if (KextPaths.ofDictionary fields).bundleKey = "" then none
      else some ((KextPaths.ofDictionary fields).keyIn identity) := by
  rw [pathOf?_eq, form?, dictionaryPath?]
  cases text : fields.text? Field.bundlePath with
  | none =>
    have blank : (KextPaths.ofDictionary fields).bundleKey = "" := by
      simp only [KextPaths.bundleKey, KextPaths.ofDictionary, Dictionary.textOrEmpty, text,
        Option.getD_none, ComponentPath.normalize_eq_empty_iff]
      rfl
    rw [if_pos blank]
    rfl
  | some bundle =>
    have key : (KextPaths.ofDictionary fields).bundleKey = ComponentPath.normalize bundle := by
      simp only [KextPaths.bundleKey, KextPaths.ofDictionary, Dictionary.textOrEmpty, text,
        Option.getD_some]
    by_cases blank : ComponentPath.normalize bundle = ""
    · rw [key, if_pos blank]
      simp only [blank, ↓reduceIte]
      rfl
    · have named : (KextPaths.ofDictionary fields).bundleKey ≠ "" := key ▸ blank
      rw [key, if_neg blank]
      simp only [blank, ↓reduceIte, Option.map_some, ← KextPaths.keyIn_ofDictionary,
        Option.filter_some, ne_eq, KextPaths.keyIn_ne_empty identity named, not_false_eq_true,
        decide_true]

theorem keyIn_of_pathOf? {identity : KextIdentity} {fields : Dictionary Node} {path : String}
    (known : pathOf? .kernelAdd identity (.dictionary fields) = some path) :
    (KextPaths.ofDictionary fields).bundleKey ≠ "" ∧
      (KextPaths.ofDictionary fields).keyIn identity = path := by
  rw [pathOf?_kext] at known
  split at known
  · cases known
  · rename_i named
    exact ⟨named, Option.some_inj.mp known⟩

theorem pathOf?_kext_other (identity : KextIdentity) {node : Node}
    (other : node.dictionary? = none) : pathOf? .kernelAdd identity node = none := by
  rw [pathOf?_eq]
  cases node with
  | dictionary fields => cases other
  | sequence items => rfl
  | scalar content => cases content <;> rfl

theorem exists_dictionary_of_pathOf? {identity : KextIdentity} {node : Node} {path : String}
    (known : pathOf? .kernelAdd identity node = some path) :
    ∃ fields, node = .dictionary fields := by
  cases dictionary : node.dictionary? with
  | none =>
    rw [pathOf?_kext_other identity dictionary] at known
    cases known
  | some fields => exact ⟨fields, Node.eq_of_dictionary? dictionary⟩

/-- Outside the list of kexts nothing depends on the identity of kexts. -/
theorem pathOf?_congr {target : Target} (other : target ≠ .kernelAdd) (one another : KextIdentity)
    (node : Node) : pathOf? target one node = pathOf? target another node := by
  rw [pathOf?_eq, pathOf?_eq]
  cases node with
  | dictionary fields =>
    cases target with
    | kernelAdd => exact absurd rfl other
    | _ => rfl
  | sequence items => rfl
  | scalar content => cases content <;> rfl

theorem pathOf?_eq_none_congr {target : Target} {one : KextIdentity} {node : Node}
    (unknown : pathOf? target one node = none) (another : KextIdentity) :
    pathOf? target another node = none := by
  by_cases kexts : target = .kernelAdd
  · subst kexts
    cases node with
    | dictionary fields =>
      rw [pathOf?_kext] at unknown ⊢
      split
      · rfl
      · rename_i named
        rw [if_neg named] at unknown
        cases unknown
    | sequence items => exact pathOf?_kext_other another rfl
    | scalar content => exact pathOf?_kext_other another rfl
  · rw [pathOf?_congr kexts another one, unknown]

end ExistingEntry

namespace Merge

open ExistingEntry ComponentPath

/-- An item with the paths of a kext is recognized as the kext, however its bundle is spelled. -/
theorem pathOf?_of_paths {fields : Dictionary Node} {component : Component}
    (category : component.category = .kext)
    (bundle : (KextPaths.ofDictionary fields).bundleKey = (KextPaths.ofComponent component).bundleKey)
    (named : (KextPaths.ofComponent component).bundleKey ≠ "")
    (executable : fields.textOrEmpty Field.executablePath = component.executablePath.getD "")
    (plist : fields.textOrEmpty Field.plistPath = component.infoPath.getD "")
    (identity : KextIdentity) : pathOf? .kernelAdd identity (.dictionary fields) =
      some (component.identifyingPath identity) := by
  rw [pathOf?_kext, bundle, if_neg named, KextPaths.keyIn_congr bundle executable plist,
    KextPaths.keyIn_ofComponent identity category]

/-- Outside the list of kexts the path alone identifies a component. -/
theorem identifyingPath_of_ne {target : Target} (other : target ≠ .kernelAdd) {component : Component}
    (category : component.category = target.category) (identity : KextIdentity) :
    component.identifyingPath identity = normalize component.relativePath := by
  unfold Component.identifyingPath
  rw [category]
  cases target with
  | kernelAdd => exact absurd rfl other
  | _ => rfl

theorem distinct_defaultFields (component : Component) (path : String) :
    (⟨defaultFields component path⟩ : Dictionary Node).Distinct := by
  unfold Dictionary.Distinct Dictionary.keys defaultFields
  cases component.category <;> simp [Field.path, Field.bundlePath, Field.executablePath,
    Field.plistPath, Field.enabled]

/-- Collecting the fields of a new item loses none of them and keeps their order. -/
theorem ofPairs_defaultFields (component : Component) (path : String) :
    Dictionary.ofPairs (defaultFields component path) = ⟨defaultFields component path⟩ :=
  Dictionary.ofPairs_of_distinct (distinct_defaultFields component path)

theorem defaultEntry_eq (component : Component) (bare : Bool) : defaultEntry component bare =
    if bare ∧ component.category = .driver then .ofText (normalize component.relativePath)
    else .dictionary ⟨defaultFields component (normalize component.relativePath)⟩ := by
  rw [defaultEntry, ofPairs_defaultFields]

theorem defaultEntry_kext {component : Component} (category : component.category = .kext)
    (bare : Bool) : defaultEntry component bare =
      .dictionary ⟨defaultFields component (normalize component.relativePath)⟩ := by
  have notDriver : ¬ (bare ∧ component.category = .driver) := by
    rintro ⟨-, driver⟩
    cases category.symm.trans driver
  rw [defaultEntry_eq, if_neg notDriver]

/-- The item for a kext has its paths, with the bundle path in normal spelling. -/
theorem paths_defaultEntry {component : Component} (category : component.category = .kext) :
    KextPaths.ofDictionary ⟨defaultFields component (normalize component.relativePath)⟩ =
      { KextPaths.ofComponent component with bundle := normalize component.relativePath } := by
  unfold defaultFields
  rw [category]
  rfl

theorem form?_defaultEntry {target : Target} {component : Component}
    (category : component.category = target.category) (other : target ≠ .kernelAdd) (bare : Bool)
    (identity : KextIdentity) : (form? target identity (defaultEntry component bare)).map Prod.snd =
      some (normalize component.relativePath) := by
  rw [defaultEntry_eq]
  split
  · rename_i driver
    obtain rfl : target = .uefiDrivers := Target.category_injective (category ▸ driver.2)
    simp only [form?, Node.ofText, ↓reduceIte, Option.map_some, normalize_normalize]
  · have text : (⟨defaultFields component (normalize component.relativePath)⟩ :
        Dictionary Node).text? Field.path = some (normalize component.relativePath) := by
      unfold defaultFields
      rw [category]
      cases target with
      | kernelAdd => exact absurd rfl other
      | _ => rfl
    cases target with
    | kernelAdd => exact absurd rfl other
    | _ => simp only [form?, dictionaryPath?, text, Option.map_some, normalize_normalize]

/-- The item for a component is recognized as the component's, whichever paths are shared. -/
theorem pathOf?_defaultEntry {target : Target} {component : Component}
    (category : component.category = target.category)
    (named : normalize component.relativePath ≠ "") (bare : Bool) (identity : KextIdentity) :
    pathOf? target identity (defaultEntry component bare) =
      some (component.identifyingPath identity) := by
  by_cases kexts : target = .kernelAdd
  · subst kexts
    have paths := paths_defaultEntry category
    rw [defaultEntry_kext category]
    refine pathOf?_of_paths category ?_ named ?_ ?_ identity
    · exact (congrArg KextPaths.bundleKey paths).trans (normalize_normalize _)
    · exact congrArg KextPaths.executable paths
    · exact congrArg KextPaths.plist paths
  · rw [pathOf?_eq, form?_defaultEntry category kexts, identifyingPath_of_ne kexts category]
    exact Option.filter_some_pos (decide_eq_true named)

end Merge
end BootSnapshot
