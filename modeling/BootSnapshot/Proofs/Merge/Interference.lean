import BootSnapshot.Proofs.Merge.Settings

set_option autoImplicit false

namespace BootSnapshot

open Merge

/-- The list that is found in the section of a key. -/
def Target.ofSectionKey? (key : String) : Option Target :=
  Target.all.find? fun target => target.sectionKey = key

/-- What stands under a list's key, without the settings of the items. -/
def listWithoutSettings (target : Target) : Node → Node
  | .sequence items => .sequence (items.map (withoutSettings target))
  | other => other

/-- What stands under a section's key, without the settings in the section's list. -/
def sectionWithoutSettings (target : Target) : Node → Node
  | .dictionary children => .dictionary (children.mapValues fun key node =>
      if key = target.listKey then listWithoutSettings target node else node)
  | other => other

def Document.withoutSettings (document : Document) : Document :=
  ⟨document.root.mapValues fun key node =>
    match Target.ofSectionKey? key with
    | some target => sectionWithoutSettings target node
    | none => node⟩

theorem Target.ofSectionKey?_sectionKey (target : Target) :
    Target.ofSectionKey? target.sectionKey = some target := by
  cases target <;> rfl

namespace Merge

theorem get?_withoutSettings (document : Document) (target : Target) :
    document.withoutSettings.get? target.sectionKey =
      (document.get? target.sectionKey).map (sectionWithoutSettings target) := by
  have found := Dictionary.get?_mapValues (fun key node =>
    match Target.ofSectionKey? key with
    | some target => sectionWithoutSettings target node
    | none => node) document.root target.sectionKey
  rw [Target.ofSectionKey?_sectionKey] at found
  exact found

theorem insert_withoutSettings (document : Document) (target : Target) (node : Node) :
    (⟨document.root.insert target.sectionKey node⟩ : Document).withoutSettings =
      ⟨document.withoutSettings.root.insert target.sectionKey
        (sectionWithoutSettings target node)⟩ := by
  have written := Dictionary.insert_mapValues (fun key node =>
    match Target.ofSectionKey? key with
    | some target => sectionWithoutSettings target node
    | none => node) document.root target.sectionKey node
  rw [Target.ofSectionKey?_sectionKey] at written
  exact congrArg Document.mk written

theorem sectionWithoutSettings_insert (target : Target) (children : Dictionary Node)
    (items : List Node) :
    sectionWithoutSettings target
        (.dictionary (children.insert target.listKey (.sequence items))) =
      .dictionary ((children.mapValues fun key node =>
          if key = target.listKey then listWithoutSettings target node else node).insert
        target.listKey (.sequence (items.map (withoutSettings target)))) := by
  simp only [sectionWithoutSettings, Dictionary.insert_mapValues, ↓reduceIte, listWithoutSettings]

/-- A list without settings is found in the document without settings, and read with the same
errors. -/
theorem existingItems_withoutSettings (document : Document) (target : Target) :
    existingItems document.withoutSettings target =
      (existingItems document target).map (List.map (withoutSettings target)) := by
  unfold existingItems
  rw [get?_withoutSettings]
  cases document.get? target.sectionKey with
  | none => rfl
  | some node =>
    cases node with
    | dictionary children =>
      simp only [Option.map_some, sectionWithoutSettings, Dictionary.get?_mapValues, ↓reduceIte]
      cases children.get? target.listKey with
      | none => rfl
      | some list => cases list <;> rfl
    | sequence items => rfl
    | scalar content => rfl

/-- Writing a list and taking settings out may be done in either order. -/
theorem commit_withoutSettings (document : Document) (target : Target) (items : List Node) :
    (commit document target items).withoutSettings =
      commit document.withoutSettings target (items.map (withoutSettings target)) := by
  have top := get?_withoutSettings document target
  unfold Document.get? at top
  unfold commit
  rw [top]
  cases document.root.get? target.sectionKey with
  | none =>
    simp only [Option.map_none]
    rw [insert_withoutSettings, sectionWithoutSettings_insert]
    rfl
  | some node =>
    cases node with
    | dictionary children =>
      simp only [Option.map_some]
      rw [insert_withoutSettings, sectionWithoutSettings_insert]
      rfl
    | sequence items => rfl
    | scalar content => rfl

/-- Two computations with results that look the same fail alike, or both succeed. -/
theorem alike_of_map_eq {ε α β : Type} {view : α → β} {one other : Except ε α}
    (same : one.map view = other.map view) :
    (∃ error, one = .error error ∧ other = .error error) ∨
      ∃ value value', one = .ok value ∧ other = .ok value' ∧ view value = view value' := by
  cases one with
  | error error =>
    cases other with
    | error error' => exact Or.inl ⟨error, rfl, congrArg Except.error (Except.error.inj same).symm⟩
    | ok value' => cases same
  | ok value =>
    cases other with
    | error error' => cases same
    | ok value' => exact Or.inr ⟨value, value', rfl, rfl, Except.ok.inj same⟩

def stagedWithoutSettings (staged : List (Target × Outcome)) : List (Target × Outcome) :=
  staged.map fun entry => (entry.1, entry.2.withoutSettings entry.1)

def resultWithoutSettings (result : Document × ChangeLog) : Document × ChangeLog :=
  (result.1.withoutSettings, result.2)

theorem commitAll_withoutSettings (document : Document) (staged : List (Target × Outcome)) :
    (commitAll document staged).withoutSettings =
      commitAll document.withoutSettings (stagedWithoutSettings staged) := by
  induction staged generalizing document with
  | nil => rfl
  | cons entry rest ih =>
    have later := ih (commit document entry.1 entry.2.items)
    rw [commit_withoutSettings] at later
    exact later

theorem changes_withoutSettings (staged : List (Target × Outcome)) :
    ((stagedWithoutSettings staged).flatMap fun entry => entry.2.changes) =
      staged.flatMap fun entry => entry.2.changes := by
  unfold stagedWithoutSettings
  rw [List.flatMap_map]
  rfl

/-- The items of a list that a merge has read. -/
theorem existingItems_of_mergeTargets {document after : Document} {discovered : List Component}
    {mode : Mode} {targets : List Target} {log : ChangeLog}
    (done : mergeTargets document discovered mode targets = .ok (after, log)) {target : Target}
    (named : target ∈ targets) :
    existingItems document target = .ok ((document.items? target).getD []) :=
  existingItems_of_admits (admits_of_mergeTargets done target named)

section Twice

variable {one other : Document}

theorem existingItems_congr (same : one.withoutSettings = other.withoutSettings)
    (target : Target) :
    (existingItems one target).map (List.map (withoutSettings target)) =
      (existingItems other target).map (List.map (withoutSettings target)) := by
  rw [← existingItems_withoutSettings, ← existingItems_withoutSettings, same]

theorem stage_congr (same : one.withoutSettings = other.withoutSettings)
    (discovered : List Component) (mode : Mode) (targets : List Target) :
    (stage one discovered mode targets).map stagedWithoutSettings =
      (stage other discovered mode targets).map stagedWithoutSettings := by
  induction targets with
  | nil => rfl
  | cons target rest ih =>
    unfold stage
    rcases alike_of_map_eq (existingItems_congr same target) with
      ⟨error, first, second⟩ | ⟨items, items', first, second, lists⟩
    · rw [first, second]
    · have outcomes := reconcile_congr lists (ofCategory discovered target.category) mode
      rw [first, second]
      dsimp only
      rcases alike_of_map_eq ih with
        ⟨error, later, later'⟩ | ⟨staged, staged', later, later', others⟩
      · rw [later, later']
        dsimp only [Except.map]
      · rw [later, later']
        have entries : (target, (reconcile target items (ofCategory discovered target.category)
              mode).withoutSettings target) :: stagedWithoutSettings staged =
            (target, (reconcile target items' (ofCategory discovered target.category)
              mode).withoutSettings target) :: stagedWithoutSettings staged' := by
          rw [outcomes, others]
        exact congrArg Except.ok entries

/-- Merges of documents that differ in settings only look the same without settings. -/
theorem mergeTargets_congr (same : one.withoutSettings = other.withoutSettings)
    (discovered : List Component) (mode : Mode) (targets : List Target) :
    (mergeTargets one discovered mode targets).map resultWithoutSettings =
      (mergeTargets other discovered mode targets).map resultWithoutSettings := by
  unfold mergeTargets
  rcases alike_of_map_eq (stage_congr same discovered mode (Target.all.filter (· ∈ targets))) with
    ⟨error, first, second⟩ | ⟨staged, staged', first, second, lists⟩
  · rw [first, second]
  · rw [first, second]
    have logs : (staged.flatMap fun entry => entry.2.changes) =
        staged'.flatMap fun entry => entry.2.changes := by
      rw [← changes_withoutSettings, lists, changes_withoutSettings]
    have documents : (commitAll one staged).withoutSettings =
        (commitAll other staged').withoutSettings := by
      rw [commitAll_withoutSettings, commitAll_withoutSettings, lists, same]
    exact congrArg Except.ok (Prod.ext documents logs)

end Twice

/-- Settings decide nothing in a merge, and a merge changes none: two documents that differ in
settings only are refused with the same error, or they get the same changes and differ in settings
only, each kept item having its own. -/
theorem settings_do_not_interfere {one other : Document}
    (same : one.withoutSettings = other.withoutSettings) (discovered : List Component)
    (mode : Mode) (targets : List Target) :
    match mergeTargets one discovered mode targets, mergeTargets other discovered mode targets with
    | .error error, .error error' => error' = error
    | .ok (after, log), .ok (after', log') =>
      log' = log ∧ after'.withoutSettings = after.withoutSettings ∧
        ∀ target ∈ targets, ∃ items items',
          after.items? target = some items ∧ after'.items? target = some items' ∧
          match mode with
          | .clean => items' = items
          | .additive => SettingsCarried target (log.ofTarget target)
              ((one.items? target).getD []) ((other.items? target).getD []) items items'
    | _, _ => False := by
  rcases alike_of_map_eq (mergeTargets_congr same discovered mode targets) with
    ⟨error, first, second⟩ | ⟨⟨after, log⟩, ⟨after', log'⟩, first, second, alike⟩
  · rw [first, second]
  · rw [first, second]
    obtain ⟨documents, logs⟩ := Prod.mk.inj alike
    refine ⟨logs.symm, documents.symm, fun target named => ?_⟩
    have lists := existingItems_congr same target
    rw [existingItems_of_mergeTargets first named,
      existingItems_of_mergeTargets second named] at lists
    refine ⟨_, _, (merged_of_mergeTargets first).lists target named,
      (merged_of_mergeTargets second).lists target named, ?_⟩
    cases mode with
    | clean => exact (items_clean_congr (Except.ok.inj lists) _).symm
    | additive =>
      rw [ofTarget_of_mergeTargets first target, if_pos named]
      exact settingsCarried_reconcile (Except.ok.inj lists) _

/-- The outdated list with a setting removed, one added in front and one of another kind. -/
def editedKexts : List Node :=
  [.dictionary ⟨[("Comment", .ofText "mine"), (Field.bundlePath, .ofText "Lilu.kext"),
      (Field.enabled, .ofText "no"), (Field.executablePath, .ofText "Contents/MacOS/Old"),
      (Field.plistPath, .ofText "Contents/Info.plist")]⟩,
    .ofText "later",
    .dictionary ⟨[(Field.bundlePath, .ofText "Gone.kext"), (Field.enabled, .ofBool true)]⟩]

def editedDocument : Document :=
  ⟨⟨[("Kernel", .dictionary ⟨[("Add", .sequence editedKexts), ("Quirks", .emptyDictionary)]⟩)]⟩⟩

theorem editedDocument_merges_alike :
    outdatedDocument.withoutSettings = editedDocument.withoutSettings ∧
    ∃ after after' log items items',
      mergeTargets outdatedDocument foundKexts .additive [.kernelAdd] = .ok (after, log) ∧
      mergeTargets editedDocument foundKexts .additive [.kernelAdd] = .ok (after', log) ∧
      after.items? .kernelAdd = some items ∧ after'.items? .kernelAdd = some items' ∧
      SettingsCarried .kernelAdd (log.ofTarget .kernelAdd) outdatedKexts editedKexts
        items items' := by
  have same : outdatedDocument.withoutSettings = editedDocument.withoutSettings := rfl
  have admits {document : Document} {items : List Node}
      (read : existingItems document .kernelAdd = .ok items) :
      ∀ target ∈ [Target.kernelAdd], document.Admits target := by
    intro target member
    rw [List.mem_singleton.mp member]
    exact admits_of_existingItems read
  have read : existingItems outdatedDocument .kernelAdd = .ok outdatedKexts := rfl
  have read' : existingItems editedDocument .kernelAdd = .ok editedKexts := rfl
  obtain ⟨after, log, done, -⟩ := mergeTargets_of_admits foundKexts .additive (admits read)
  obtain ⟨after', log', done', -⟩ := mergeTargets_of_admits foundKexts .additive (admits read')
  have alike := settings_do_not_interfere same foundKexts .additive [.kernelAdd]
  rw [done, done'] at alike
  obtain ⟨rfl, -, lists⟩ := alike
  obtain ⟨items, items', found, found', carried⟩ := lists .kernelAdd List.mem_cons_self
  exact ⟨same, after, after', log', items, items', done, done', found, found', carried⟩

end Merge
end BootSnapshot
