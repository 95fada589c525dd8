import BootSnapshot.Proofs.Merge.Additive
import BootSnapshot.Proofs.Merge.Replay

set_option autoImplicit false

namespace BootSnapshot.Merge

open ExistingEntry

/-- The keys of a list's items that a merge reads. -/
def identifyingKeys : Target → List String
  | .kernelAdd => [Field.bundlePath, Field.executablePath, Field.plistPath]
  | _ => [Field.path]

/-- A dictionary without the keys that are the user's. -/
def identifyingPart (target : Target) (fields : Dictionary Node) : Dictionary Node :=
  ⟨fields.entries.filter fun entry => entry.1 ∈ identifyingKeys target⟩

/-- The entries of a dictionary that are the user's, in their order. -/
def settingsPart (target : Target) (fields : Dictionary Node) : List (String × Node) :=
  fields.entries.filter fun entry => entry.1 ∉ identifyingKeys target

def withoutSettings (target : Target) : Node → Node
  | .dictionary fields => .dictionary (identifyingPart target fields)
  | other => other

/-- An item with all of its settings as they were. -/
structure KeepsSettings (target : Target) (node after : Node) : Prop where
  other : node.dictionary? = none → after = node
  dictionary : ∀ fields, node = .dictionary fields →
    ∃ changed, after = .dictionary changed ∧ settingsPart target changed = settingsPart target fields

theorem followedKeys_subset : followedKeys ⊆ identifyingKeys .kernelAdd := by decide

section Items

variable {target : Target}

theorem text?_identifyingPart {key : String} (read : key ∈ identifyingKeys target)
    (fields : Dictionary Node) : (identifyingPart target fields).text? key = fields.text? key := by
  have kept : decide (key ∈ identifyingKeys target) = true := decide_eq_true read
  have found : (identifyingPart target fields).get? key = fields.get? key :=
    Dictionary.lookup_filter (fun name => name ∈ identifyingKeys target) kept fields.entries
  simp only [Dictionary.text?, found]

theorem textOrEmpty_identifyingPart {key : String} (read : key ∈ identifyingKeys target)
    (fields : Dictionary Node) :
    (identifyingPart target fields).textOrEmpty key = fields.textOrEmpty key := by
  simp only [Dictionary.textOrEmpty, text?_identifyingPart read]

theorem identifyingPart_insert {key : String} (read : key ∈ identifyingKeys target)
    (fields : Dictionary Node) (value : Node) :
    (identifyingPart target fields).insert key value =
      identifyingPart target (fields.insert key value) := by
  have kept : decide (key ∈ identifyingKeys target) = true := decide_eq_true read
  exact congrArg Dictionary.mk
    (Dictionary.put_filter (fun name => name ∈ identifyingKeys target) kept value fields.entries)

theorem withoutSettings_withoutSettings (node : Node) :
    withoutSettings target (withoutSettings target node) = withoutSettings target node := by
  cases node with
  | dictionary fields =>
    simp only [withoutSettings, identifyingPart, List.filter_filter, Bool.and_self]
  | sequence items => rfl
  | scalar content => rfl

theorem text?_withoutSettings (node : Node) : (withoutSettings target node).text? = node.text? := by
  cases node <;> rfl

theorem kind_withoutSettings (node : Node) : (withoutSettings target node).kind = node.kind := by
  cases node <;> rfl

/-- What identifies a kext depends on no texts but those of its paths. -/
theorem ofDictionary_congr {fields changed : Dictionary Node}
    (same : ∀ key ∈ identifyingKeys .kernelAdd, changed.text? key = fields.text? key)
    (identity : KextIdentity) : identity.ofDictionary changed = identity.ofDictionary fields := by
  unfold KextIdentity.ofDictionary Dictionary.textOrEmpty
  rw [same Field.bundlePath (by decide), same Field.executablePath (by decide),
    same Field.plistPath (by decide)]

theorem ofDictionary_identifyingPart (identity : KextIdentity) (fields : Dictionary Node) :
    identity.ofDictionary (identifyingPart .kernelAdd fields) = identity.ofDictionary fields :=
  ofDictionary_congr (fun _ read => text?_identifyingPart read fields) identity

theorem bundleOf?_withoutSettings (node : Node) :
    KextIdentity.bundleOf? (withoutSettings .kernelAdd node) = KextIdentity.bundleOf? node := by
  cases node with
  | dictionary fields =>
    have read : Field.bundlePath ∈ identifyingKeys .kernelAdd := by decide
    simp only [KextIdentity.bundleOf?, withoutSettings, Node.dictionary?, Option.bind_some,
      text?_identifyingPart read]
  | sequence items => rfl
  | scalar content => rfl

/-- Dictionaries with the same texts under the keys that a merge reads are identified alike. -/
theorem pathOf?_congr_of_text? {fields changed : Dictionary Node}
    (same : ∀ key ∈ identifyingKeys target, changed.text? key = fields.text? key)
    (identity : KextIdentity) :
    pathOf? target identity (.dictionary changed) = pathOf? target identity (.dictionary fields) := by
  have path : dictionaryPath? target identity changed = dictionaryPath? target identity fields := by
    cases target with
    | kernelAdd =>
      unfold dictionaryPath?
      rw [same Field.bundlePath (by decide), ofDictionary_congr same identity]
    | _ => exact congrArg (Option.map ComponentPath.normalize) (same Field.path (by decide))
  simp only [pathOf?_eq, form?, path, Option.map_map]
  rfl

/-- What identifies an item does not depend on its settings. -/
theorem pathOf?_withoutSettings (identity : KextIdentity) (node : Node) :
    pathOf? target identity (withoutSettings target node) = pathOf? target identity node := by
  cases node with
  | dictionary fields =>
    exact pathOf?_congr_of_text? (fun _ read => text?_identifyingPart read fields) identity
  | sequence items => rfl
  | scalar content => rfl

/-- An item that an additive merge keeps has its settings in any case. -/
theorem keepsSettings_of_carried {identity : KextIdentity} {components : List Component}
    {node after : Node} (carried : Carried target identity components node after) :
    KeepsSettings target node after := by
  refine ⟨fun other => carried.same (Or.inr other), fun fields dictionary => ?_⟩
  by_cases kexts : target = .kernelAdd
  · subst kexts
    obtain ⟨changed, same, refreshed, -⟩ := carried.kext rfl fields dictionary
    refine ⟨changed, same, ?_⟩
    -- The entries that stay in their places are more than the settings.
    have settings (d : Dictionary Node) : settingsPart .kernelAdd d =
        (d.entries.filter (·.1 ∉ followedKeys)).filter (·.1 ∉ identifyingKeys .kernelAdd) := by
      rw [List.filter_filter]
      refine List.filter_congr fun entry _ => ?_
      rw [← Bool.decide_and, decide_eq_decide]
      exact (and_iff_left_of_imp fun absent followed =>
        absent (followedKeys_subset followed)).symm
    rw [settings, settings, refreshed.others]
  · rw [carried.same (Or.inl kexts)]
    exact ⟨fields, dictionary, rfl⟩

end Items

section Lists

variable {target : Target}

variable (target) in
theorem identityFor_withoutSettings (items : List Node) (components : List Component) :
    identityFor target (items.map (withoutSettings target)) components =
      identityFor target items components := by
  unfold identityFor
  by_cases kexts : target = .kernelAdd
  · subst kexts
    have bundles : (items.map (withoutSettings .kernelAdd)).filterMap KextIdentity.bundleOf? =
        items.filterMap KextIdentity.bundleOf? := by
      rw [List.filterMap_map]
      exact List.filterMap_congr fun node _ => bundleOf?_withoutSettings node
    simp only [↓reduceIte, KextIdentity.ofSides, bundles]
  · simp only [kexts, ↓reduceIte]

variable (target) in
theorem holdsBarePaths_withoutSettings (items : List Node) :
    holdsBarePaths (items.map (withoutSettings target)) = holdsBarePaths items := by
  cases items with
  | nil => rfl
  | cons node rest =>
    simp only [holdsBarePaths, List.map_cons, List.head?_cons, Option.bind_some,
      text?_withoutSettings]

variable (identity : KextIdentity) (components : List Component)

theorem stays_withoutSettings (node : Node) :
    stays target identity components (withoutSettings target node) =
      stays target identity components node := by
  simp only [stays, pathOf?_withoutSettings]

theorem filter_stays_withoutSettings (items : List Node) :
    (items.map (withoutSettings target)).filter (stays target identity components) =
      (items.filter (stays target identity components)).map (withoutSettings target) := by
  rw [List.filter_map]
  refine congrArg (List.map _) (List.filter_congr fun node _ => ?_)
  exact stays_withoutSettings identity components node

theorem staleChanges_withoutSettings (index : Nat) (items : List Node) :
    staleChanges target identity (Wanted.ofComponents identity components) index
        (items.map (withoutSettings target)) =
      staleChanges target identity (Wanted.ofComponents identity components) index items := by
  induction items generalizing index with
  | nil => rfl
  | cons node rest ih =>
    simp only [List.map_cons, staleChanges, stale?_eq, stays_withoutSettings,
      pathOf?_withoutSettings, ih]

theorem removedName_eq (node : Node) : removedName target identity node =
    (pathOf? target identity node).getD node.kind.name := by
  unfold removedName pathOf?
  cases project? target 0 node identity <;> rfl

theorem cleanChanges_withoutSettings (index : Nat) (items : List Node) :
    cleanChanges target identity index (items.map (withoutSettings target)) =
      cleanChanges target identity index items := by
  induction items generalizing index with
  | nil => rfl
  | cons node rest ih =>
    simp only [List.map_cons, cleanChanges, removedName_eq, pathOf?_withoutSettings,
      kind_withoutSettings, ih]

theorem filterMap_pathOf?_withoutSettings (items : List Node) :
    (items.map (withoutSettings target)).filterMap (pathOf? target identity) =
      items.filterMap (pathOf? target identity) := by
  rw [List.filterMap_map]
  exact List.filterMap_congr fun node _ => pathOf?_withoutSettings identity node

theorem newcomers_withoutSettings (items : List Node) :
    newcomers target identity (items.map (withoutSettings target)) components =
      newcomers target identity items components := by
  simp only [newcomers, filterMap_pathOf?_withoutSettings]

variable (wanted : Wanted)

theorem updateField_identifyingPart {field : String} (read : field ∈ identifyingKeys .kernelAdd)
    (index : Nat) (path new : String) (fields : Dictionary Node) :
    updateField index path field new (identifyingPart .kernelAdd fields) =
      (identifyingPart .kernelAdd (updateField index path field new fields).1,
        (updateField index path field new fields).2) := by
  unfold updateField
  rw [textOrEmpty_identifyingPart read]
  by_cases same : fields.textOrEmpty field = new
  · simp only [same, ↓reduceIte]
  · simp only [same, ↓reduceIte, identifyingPart_insert read]

/-- Bringing a kext up to date neither reads nor writes its settings. -/
theorem updateKext_withoutSettings (index : Nat) (node : Node) :
    updateKext identity wanted index (withoutSettings .kernelAdd node) =
      (withoutSettings .kernelAdd (updateKext identity wanted index node).1,
        (updateKext identity wanted index node).2) := by
  cases node with
  | dictionary fields =>
    simp only [withoutSettings, updateKext, ofDictionary_identifyingPart]
    cases wanted.find? (identity.ofDictionary fields) with
    | none => rfl
    | some component =>
      have executable : Field.executablePath ∈ identifyingKeys .kernelAdd := by decide
      have plist : Field.plistPath ∈ identifyingKeys .kernelAdd := by decide
      simp only [updateField_identifyingPart executable, updateField_identifyingPart plist]
  | sequence items => rfl
  | scalar content => rfl

theorem updateKexts_withoutSettings (index : Nat) (items : List Node) :
    updateKexts identity wanted index (items.map (withoutSettings .kernelAdd)) =
      ((updateKexts identity wanted index items).1.map (withoutSettings .kernelAdd),
        (updateKexts identity wanted index items).2) := by
  induction items generalizing index with
  | nil => rfl
  | cons node rest ih => simp only [List.map_cons, updateKexts, updateKext_withoutSettings, ih]

end Lists

def Outcome.withoutSettings (target : Target) (outcome : Outcome) : Outcome :=
  ⟨outcome.items.map (Merge.withoutSettings target), outcome.changes⟩

theorem append_withoutSettings (target : Target) (bare : Bool) (items : List Node)
    (removals : ChangeLog) (added : Wanted) :
    (Outcome.append target bare (items.map (withoutSettings target)) removals
        added).withoutSettings target =
      (Outcome.append target bare items removals added).withoutSettings target := by
  have again : (items.map (withoutSettings target)).map (withoutSettings target) =
      items.map (withoutSettings target) := by
    rw [List.map_map]
    exact List.map_congr_left fun node _ => withoutSettings_withoutSettings node
  simp only [Outcome.append, Outcome.withoutSettings, List.map_append, again, List.length_map]

/-- Settings change nothing in the outcome but the settings themselves. -/
theorem reconcile_withoutSettings (target : Target) (items : List Node)
    (components : List Component) (mode : Mode) :
    (reconcile target (items.map (withoutSettings target)) components mode).withoutSettings target =
      (reconcile target items components mode).withoutSettings target := by
  cases mode with
  | clean =>
    simp only [reconcile, identityFor_withoutSettings, holdsBarePaths_withoutSettings,
      cleanChanges_withoutSettings]
  | additive =>
    have matchedSame (identity : KextIdentity) (kept : List Node) :
        matched target identity (kept.map (withoutSettings target)) =
          matched target identity kept := filterMap_pathOf?_withoutSettings identity kept
    simp only [reconcile, identityFor_withoutSettings, holdsBarePaths_withoutSettings,
      staleChanges_withoutSettings, kept_eq, filter_stays_withoutSettings, matchedSame]
    by_cases kexts : target = .kernelAdd
    · subst kexts
      simp only [↓reduceIte, updateKexts_withoutSettings, append_withoutSettings]
    · simp only [kexts, ↓reduceIte, append_withoutSettings]

section Twice

variable {target : Target} {items items' : List Node}

/-- Lists that differ in settings only have outcomes that differ in settings only. -/
theorem reconcile_congr
    (same : items.map (withoutSettings target) = items'.map (withoutSettings target))
    (components : List Component) (mode : Mode) :
    (reconcile target items components mode).withoutSettings target =
      (reconcile target items' components mode).withoutSettings target := by
  rw [← reconcile_withoutSettings target items, same, reconcile_withoutSettings]

/-- Nothing that a clean merge writes comes from the old list. -/
theorem items_clean_congr
    (same : items.map (withoutSettings target) = items'.map (withoutSettings target))
    (components : List Component) :
    (reconcile target items components .clean).items =
      (reconcile target items' components .clean).items := by
  have identity := identityFor_withoutSettings target items components
  have bare := holdsBarePaths_withoutSettings target items
  rw [same, identityFor_withoutSettings] at identity
  rw [same, holdsBarePaths_withoutSettings] at bare
  simp only [reconcile, Outcome.append, identity, bare]

end Twice

def stalePositions (log : ChangeLog) : List Nat :=
  (log.filter fun change => change.kind = .staleRemoved).map Change.index

/-- How two merged lists come from lists that differ in settings only: the same items are kept, each
with the settings that it has in its own list, and the same items follow. -/
structure SettingsCarried (target : Target) (log : ChangeLog) (old old' new new' : List Node) :
    Prop where
  size : new'.length = new.length
  kept : ∃ kept kept' added, new = kept ++ added ∧ new' = kept' ++ added ∧
    kept.map (withoutSettings target) = kept'.map (withoutSettings target) ∧
    List.Forall₂ (KeepsSettings target) (remaining (stalePositions log) old) kept ∧
    List.Forall₂ (KeepsSettings target) (remaining (stalePositions log) old') kept'

theorem stalePositions_reconcile (target : Target) (existing : List Node)
    (components : List Component) :
    stalePositions (reconcile target existing components .additive).changes =
      (staleChanges target (identityFor target existing components)
        (Wanted.ofComponents (identityFor target existing components) components) 0
        existing).map Change.index := by
  let identity := identityFor target existing components
  let wanted := Wanted.ofComponents identity components
  have stale : (staleChanges target identity wanted 0 existing).filter
      (fun change => change.kind = .staleRemoved) =
        staleChanges target identity wanted 0 existing :=
    List.filter_eq_self.mpr fun _ member =>
      decide_eq_true (mem_staleChanges target identity wanted member).1
  have updates (items : List Node) : (updateKexts identity wanted 0 items).2.filter
      (fun change => change.kind = .staleRemoved) = [] := by
    refine List.filter_eq_nil_iff.mpr fun change member => ?_
    obtain ⟨-, field, -, old, new, kind⟩ := mem_updateKexts member
    rw [kind]
    exact Bool.false_ne_true
  have additions (index : Nat) (added : Wanted) : (addedChanges target index added).filter
      (fun change => change.kind = .staleRemoved) = [] := by
    rw [addedChanges_eq]
    refine List.filter_eq_nil_iff.mpr fun change member => ?_
    obtain ⟨entry, -, rfl⟩ := List.mem_map.mp member
    exact Bool.false_ne_true
  unfold stalePositions
  refine congrArg (List.map Change.index) ?_
  by_cases kexts : target = .kernelAdd
  · subst kexts
    simp only [reconcile, ↓reduceIte, Outcome.append, List.filter_append, additions,
      List.append_nil]
    rw [updates, List.append_nil]
    exact stale
  · simp only [reconcile, kexts, ↓reduceIte, Outcome.append, List.filter_append, additions,
      List.append_nil]
    exact stale

theorem remaining_stalePositions (target : Target) (existing : List Node)
    (components : List Component) :
    remaining (stalePositions (reconcile target existing components .additive).changes) existing =
      existing.filter (stays target (identityFor target existing components) components) := by
  rw [stalePositions_reconcile, remaining_staleChanges, kept_eq]

theorem settingsCarried_reconcile {target : Target} {old old' : List Node}
    (same : old.map (withoutSettings target) = old'.map (withoutSettings target))
    (components : List Component) :
    SettingsCarried target (reconcile target old components .additive).changes old old'
      (reconcile target old components .additive).items
      (reconcile target old' components .additive).items := by
  obtain ⟨items, changes⟩ := Outcome.mk.inj (reconcile_congr same components .additive)
  have identity : identityFor target old components = identityFor target old' components := by
    rw [← identityFor_withoutSettings target old, same, identityFor_withoutSettings]
  have bare : holdsBarePaths old = holdsBarePaths old' := by
    rw [← holdsBarePaths_withoutSettings target old, same, holdsBarePaths_withoutSettings]
  have added : newcomers target (identityFor target old components) old components =
      newcomers target (identityFor target old' components) old' components := by
    rw [← newcomers_withoutSettings, same, newcomers_withoutSettings, identity]
  obtain ⟨kept, carried, first⟩ := mergedInto_reconcile target old components
  obtain ⟨kept', carried', second⟩ := mergedInto_reconcile target old' components
  refine ⟨?_, kept, kept', _, first, ?_, ?_, ?_, ?_⟩
  · have sizes := congrArg List.length items
    rw [List.length_map, List.length_map] at sizes
    exact sizes.symm
  · rw [second, added, bare]
  · rw [first, second, added, bare, List.map_append, List.map_append] at items
    exact List.append_cancel_right items
  · rw [remaining_stalePositions]
    exact carried.imp fun _ _ => keepsSettings_of_carried
  · rw [changes, remaining_stalePositions]
    exact carried'.imp fun _ _ => keepsSettings_of_carried

end BootSnapshot.Merge
