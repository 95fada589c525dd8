import BootSnapshot.Proofs.Merge.Settings
import BootSnapshot.Proofs.Tree.History

set_option autoImplicit false

namespace BootSnapshot

@[simp] theorem Target.category_ofCategory (category : Category) :
    (Target.ofCategory category).category = category := by
  cases category <;> rfl

def Field.paths : List String :=
  [Field.path, Field.bundlePath, Field.executablePath, Field.plistPath]

/-- The key under which the items of a list say where their components lie. -/
def Target.pathKey : Target → String
  | .kernelAdd => Field.bundlePath
  | _ => Field.path

/-- The dictionaries hold the same under the keys of paths; in all else they may differ. -/
def Dictionary.SamePaths (fields changed : Dictionary Node) : Prop :=
  ∀ key ∈ Field.paths, changed.get? key = fields.get? key

namespace ExistingEntry

/-- The path of an entry's component as the item spells it; a bare path is the whole item. -/
def storedPath? (target : Target) (entry : ExistingEntry) : Option String :=
  match entry.form with
  | .dictionary fields => fields.text? target.pathKey
  | .barePath path => some path

theorem exists_project?_of_pathOf? {target : Target} {identity : KextIdentity} {node : Node}
    {path : String} (known : pathOf? target identity node = some path) (index : Nat) :
    ∃ form, form? target identity node = some (form, path) ∧
      project? target index node identity = some ⟨form, path, index⟩ := by
  rw [pathOf?_eq, Option.filter_eq_some_iff, Option.map_eq_some_iff] at known
  obtain ⟨⟨⟨form, _⟩, found, rfl⟩, filled⟩ := known
  refine ⟨form, found, ?_⟩
  simp only [project?, found, of_decide_eq_true filled, ↓reduceIte]

/-- The form of a dictionary is the dictionary. -/
theorem eq_dictionary_of_form? {target : Target} {identity : KextIdentity}
    {fields : Dictionary Node} {form : StoredForm} {path : String}
    (found : form? target identity (.dictionary fields) = some (form, path)) :
    form = .dictionary fields := by
  obtain ⟨_, -, same⟩ := Option.map_eq_some_iff.mp found
  exact (Prod.mk.inj same).1.symm

theorem eq_barePath_of_form? {target : Target} {identity : KextIdentity} {text path : String}
    {form : StoredForm} (found : form? target identity (.ofText text) = some (form, path)) :
    form = .barePath text := by
  simp only [form?, Node.ofText] at found
  split at found
  · exact (Prod.mk.inj (Option.some_inj.mp found)).1.symm
  · cases found

end ExistingEntry

namespace Merge

open ExistingEntry ComponentPath

variable (component : Component)

theorem enabled_defaultFields (path : String) :
    (⟨defaultFields component path⟩ : Dictionary Node).bool? Field.enabled = some true := by
  unfold defaultFields
  cases component.category <;> rfl

theorem path_defaultFields (path : String) :
    (⟨defaultFields component path⟩ : Dictionary Node).text?
      (Target.ofCategory component.category).pathKey = some path := by
  unfold defaultFields
  cases component.category <;> rfl

/-- A new item is a bare path if that was asked for and it is a driver's, and a dictionary else. -/
theorem defaultEntry_cases (bare : Bool) :
    (bare = true ∧ component.category = .driver) ∧
        defaultEntry component bare = .ofText (normalize component.relativePath) ∨
      ¬ (bare = true ∧ component.category = .driver) ∧ defaultEntry component bare =
        .dictionary ⟨defaultFields component (normalize component.relativePath)⟩ := by
  rw [defaultEntry_eq]
  split
  · rename_i driver
    exact Or.inl ⟨driver, rfl⟩
  · rename_i other
    exact Or.inr ⟨other, rfl⟩

variable {component}

/-- Edits of other keys leave the paths of an item. -/
theorem samePaths_after {fields : Dictionary Node} (distinct : fields.Distinct)
    {edits : List (Dictionary.Edit Node)}
    (untouched : ∀ edit ∈ edits, ∀ key ∈ Field.paths, edit.write? key = none) :
    fields.SamePaths (fields.after edits) := by
  intro key path
  apply Dictionary.get?_after_of_untouched distinct
  intro edit member
  exact untouched edit member key path

theorem identifyingKeys_subset (target : Target) : identifyingKeys target ⊆ Field.paths := by
  cases target <;> decide

theorem pathOf?_of_samePaths {fields changed : Dictionary Node} (same : fields.SamePaths changed)
    (target : Target) (identity : KextIdentity) :
    pathOf? target identity (.dictionary changed) = pathOf? target identity (.dictionary fields) := by
  apply pathOf?_congr_of_text?
  intro key read
  unfold Dictionary.text?
  rw [same key (identifyingKeys_subset target read)]

/-- The item that a merge builds for a component with a path is recognized at any place of its list.
It is identified as the component is, it is enabled, and its path is that of the component in
normal spelling; it is a bare path if that was asked for and the component is a driver. However the
item is changed elsewhere than under the keys of paths, it is identified as before. -/
theorem defaultEntry_recognized (named : normalize component.relativePath ≠ "") (bare : Bool)
    (index : Nat) (identity : KextIdentity) :
    (∃ entry, project? (.ofCategory component.category) index (defaultEntry component bare)
        identity = some entry ∧
      entry.identifyingPath = component.identifyingPath identity ∧ entry.index = index ∧
      entry.isEnabled = true ∧
      entry.storedPath? (.ofCategory component.category) =
        some (normalize component.relativePath) ∧
      (entry.barePath?.isSome ↔ bare = true ∧ component.category = .driver)) ∧
    ∀ fields changed, defaultEntry component bare = .dictionary fields →
      fields.SamePaths changed → ∀ place, ∃ entry,
        project? (.ofCategory component.category) place (.dictionary changed) identity =
          some entry ∧
        entry.identifyingPath = component.identifyingPath identity := by
  have known := pathOf?_defaultEntry (Target.category_ofCategory component.category).symm named bare
    identity
  constructor
  · obtain ⟨form, found, recognized⟩ := exists_project?_of_pathOf? known index
    refine ⟨_, recognized, rfl, rfl, ?_⟩
    rcases defaultEntry_cases component bare with ⟨driver, built⟩ | ⟨other, built⟩
    · rw [built] at found
      obtain rfl := eq_barePath_of_form? found
      exact ⟨rfl, rfl, iff_of_true rfl driver⟩
    · rw [built] at found
      obtain rfl := eq_dictionary_of_form? found
      refine ⟨?_, path_defaultFields component _, iff_of_false Bool.false_ne_true other⟩
      simp only [isEnabled, enabled_defaultFields, Option.getD_some]
  · intro fields changed built same place
    rw [built, ← pathOf?_of_samePaths same] at known
    obtain ⟨form, -, recognized⟩ := exists_project?_of_pathOf? known place
    exact ⟨_, recognized, rfl⟩

/-- A plug-in without code, at a path that is not spelled normally. -/
def injector : Component :=
  { relativePath := "./Keyboard.kext//Contents\\PlugIns/Injector.kext/", category := .kext,
    infoPath := some "Contents/Info.plist" }

def injectorShared : KextIdentity := ⟨["Keyboard.kext/Contents/PlugIns/Injector.kext"]⟩

/-- The user turns the plug-in off, limits it to a version and takes out the comment. -/
def injectorEdits : List (Dictionary.Edit Node) :=
  [.insert Field.enabled (.ofBool false), .remove "MinKernel",
    .insertAt 0 "MinKernel" (.ofText "19.0.0"), .remove "Comment"]

def runtimeDriver : Component := { relativePath := "sub\\.\\OpenRuntime.efi", category := .driver }

/-- The plug-in is told apart by its descriptor before and after the edits, and the driver is known
as a bare path. -/
theorem injector_recognized :
    (∃ entry, project? .kernelAdd 2 (defaultEntry injector true) injectorShared = some entry ∧
      entry.identifyingPath =
        "Keyboard.kext/Contents/PlugIns/Injector.kext/Contents/Info.plist" ∧
      entry.isEnabled = true ∧
      entry.storedPath? .kernelAdd = some "Keyboard.kext/Contents/PlugIns/Injector.kext") ∧
    (∃ entry, project? .kernelAdd 0
        (.dictionary ((⟨defaultFields injector "Keyboard.kext/Contents/PlugIns/Injector.kext"⟩ :
          Dictionary Node).after injectorEdits)) injectorShared = some entry ∧
      entry.identifyingPath =
        "Keyboard.kext/Contents/PlugIns/Injector.kext/Contents/Info.plist") ∧
    ∃ entry, project? .uefiDrivers 0 (defaultEntry runtimeDriver true) .byBundle = some entry ∧
      entry.identifyingPath = "sub/OpenRuntime.efi" ∧
      entry.storedPath? .uefiDrivers = some "sub/OpenRuntime.efi" ∧ entry.barePath?.isSome := by
  have bundle : normalize injector.relativePath = "Keyboard.kext/Contents/PlugIns/Injector.kext" := by
    rw [normalize_of_plain (by decide)]
    decide
  have qualified : injector.identifyingPath injectorShared =
      "Keyboard.kext/Contents/PlugIns/Injector.kext/Contents/Info.plist" := by
    have key : (KextPaths.ofComponent injector).bundleKey =
      "Keyboard.kext/Contents/PlugIns/Injector.kext" := bundle
    rw [← KextPaths.keyIn_ofComponent injectorShared rfl, KextPaths.keyIn_eq,
      KextPaths.qualifiedKey, key, if_pos (by decide), KextIdentity.qualified,
      normalize_of_plain (by decide)]
    decide
  have driver : normalize runtimeDriver.relativePath = "sub/OpenRuntime.efi" := by
    rw [normalize_of_plain (by decide)]
    decide
  have named : normalize injector.relativePath ≠ "" := by simp [bundle]
  have driverNamed : normalize runtimeDriver.relativePath ≠ "" := by simp [driver]
  obtain ⟨⟨entry, recognized, identified, -, enabled, stored, -⟩, again⟩ :=
    defaultEntry_recognized named true 2 injectorShared
  have untouched : ∀ edit ∈ injectorEdits, ∀ key ∈ Field.paths, edit.write? key = none := by decide
  obtain ⟨later, found, same⟩ := again _ _ (by rw [defaultEntry_kext rfl, bundle])
    (samePaths_after (distinct_defaultFields injector _) untouched) 0
  obtain ⟨⟨bare, known, path, -, -, text, form⟩, -⟩ :=
    defaultEntry_recognized driverNamed true 0 .byBundle
  refine ⟨⟨entry, recognized, identified.trans qualified, enabled, ?_⟩,
    ⟨later, found, same.trans qualified⟩, bare, known, path.trans driver, ?_, form.mpr ⟨rfl, rfl⟩⟩
  · rw [← bundle]
    exact stored
  · rw [← driver]
    exact text

end Merge
end BootSnapshot
