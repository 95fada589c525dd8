import BootSnapshot.Proofs.Merge.InPlace
import BootSnapshot.Proofs.Merge.Sharing

set_option autoImplicit false

namespace BootSnapshot.Merge

open KextPaths

/-- Components that a scan tells apart: no path occurs twice in a category, and no kext's qualified
path is the path of another kext, qualified or not. -/
structure Unambiguous (discovered : List Component) : Prop where
  paths : discovered.Pairwise fun one other => one.category = other.category →
    ComponentPath.normalize one.relativePath ≠ ComponentPath.normalize other.relativePath
  kexts : Apart ((ofCategory discovered .kext).map ofComponent)

def listsBarePaths (document : Document) : Bool :=
  holdsBarePaths ((document.items? .uefiDrivers).getD [])

/-- An item for every component of the list's category, in the order of discovery. -/
def rebuilt (discovered : List Component) (target : Target) (bare : Bool) : List Node :=
  (ofCategory discovered target.category).map (defaultEntry · bare)

/-- Only items for drivers have two forms. -/
theorem defaultEntry_of_ne_driver {component : Component} (other : component.category ≠ .driver)
    (one another : Bool) : defaultEntry component one = defaultEntry component another := by
  have apart (bare : Bool) : ¬ (bare = true ∧ component.category = .driver) :=
    fun driver => other driver.2
  unfold defaultEntry
  rw [if_neg (apart one), if_neg (apart another)]

theorem defaultEntry_bare {component : Component} (driver : component.category = .driver) :
    defaultEntry component true = .ofText (ComponentPath.normalize component.relativePath) :=
  if_pos ⟨rfl, driver⟩

theorem rebuilt_of_ne {target : Target} (other : target ≠ .uefiDrivers)
    (discovered : List Component) (one another : Bool) :
    rebuilt discovered target one = rebuilt discovered target another := by
  refine List.map_congr_left fun component member => defaultEntry_of_ne_driver ?_ one another
  rw [category_of_mem member]
  exact fun driver => other (Target.category_injective driver)

theorem rebuilt_bare (discovered : List Component) :
    rebuilt discovered .uefiDrivers true =
      (ofCategory discovered .driver).map fun component =>
        .ofText (ComponentPath.normalize component.relativePath) :=
  List.map_congr_left fun _ member => defaultEntry_bare (category_of_mem member)

/-- Whichever bundle paths are shared, different paths give different identities. -/
theorem identifyingPath_ne {components : List Component} {target : Target}
    (category : ∀ component ∈ components, component.category = target.category)
    (apart : target = .kernelAdd → Apart (components.map ofComponent)) (identity : KextIdentity)
    {one other : Component} (first : one ∈ components) (second : other ∈ components)
    (differ : ComponentPath.normalize one.relativePath ≠ ComponentPath.normalize other.relativePath) :
    one.identifyingPath identity ≠ other.identifyingPath identity := by
  intro same
  by_cases kexts : target = .kernelAdd
  · subst kexts
    rw [← keyIn_ofComponent identity (category one first),
      ← keyIn_ofComponent identity (category other second)] at same
    have bundle : (ofComponent one).bundleKey = (ofComponent other).bundleKey :=
      (apart rfl).bundleKey_eq (List.mem_map_of_mem first) (List.mem_map_of_mem second) identity same
    exact differ bundle
  · rw [identifyingPath_of_ne kexts (category one first),
      identifyingPath_of_ne kexts (category other second)] at same
    exact differ same

/-- No component is taken for another one. -/
theorem Unambiguous.ofComponents_eq {discovered : List Component}
    (scanned : Unambiguous discovered) (target : Target) (identity : KextIdentity) :
    Wanted.ofComponents identity (ofCategory discovered target.category) =
      (ofCategory discovered target.category).map fun component =>
        (component.identifyingPath identity, component) := by
  have category : ∀ component ∈ ofCategory discovered target.category,
      component.category = target.category := fun _ member => category_of_mem member
  have apart : target = .kernelAdd →
      Apart ((ofCategory discovered target.category).map ofComponent) := by
    rintro rfl
    exact scanned.kexts
  have distinct : ((ofCategory discovered target.category).map fun component =>
      component.identifyingPath identity).Nodup := by
    apply List.pairwise_map.mpr
    refine (scanned.paths.filter _).imp_of_mem fun {one other} first second differ => ?_
    exact identifyingPath_ne category apart identity first second
      (differ ((category one first).trans (category other second).symm))
  refine Wanted.firsts_of_nodup ?_ fun _ _ => List.not_mem_nil
  rw [List.map_map]
  exact distinct

/-- What a clean merge makes of one list. -/
theorem Unambiguous.items_clean {discovered : List Component} (scanned : Unambiguous discovered)
    (target : Target) (existing : List Node) :
    (reconcile target existing (ofCategory discovered target.category) .clean).items =
      rebuilt discovered target (target = .uefiDrivers && holdsBarePaths existing) := by
  simp only [reconcile, Outcome.append, List.nil_append, scanned.ofComponents_eq, List.map_map]
  rfl

/-- What a clean merge makes of a document's list. -/
theorem Unambiguous.items?_clean {discovered : List Component} (scanned : Unambiguous discovered)
    {document after : Document} {targets : List Target} {log : ChangeLog}
    (done : mergeTargets document discovered .clean targets = .ok (after, log)) {target : Target}
    (named : target ∈ targets) :
    after.items? target = some (rebuilt discovered target (listsBarePaths document)) := by
  rw [(merged_of_mergeTargets done).lists target named, scanned.items_clean]
  by_cases drivers : target = .uefiDrivers
  · subst drivers
    rfl
  · rw [rebuilt_of_ne drivers]

/-- Two documents get the same lists from a clean merge, whatever they held before, save that the
drivers are listed as bare paths where they began with one. -/
theorem clean_merge_rebuilds_from_disk {discovered : List Component}
    (scanned : Unambiguous discovered) {one other after after' : Document}
    {targets : List Target} {log log' : ChangeLog}
    (done : mergeTargets one discovered .clean targets = .ok (after, log))
    (done' : mergeTargets other discovered .clean targets = .ok (after', log')) :
    ∀ target ∈ targets,
      after.items? target = some (rebuilt discovered target (listsBarePaths one)) ∧
      (target ≠ .uefiDrivers ∨ listsBarePaths one = listsBarePaths other →
        after'.items? target = after.items? target) ∧
      (target = .uefiDrivers → listsBarePaths one = true →
        after.items? target = some ((ofCategory discovered .driver).map fun component =>
          .ofText (ComponentPath.normalize component.relativePath))) := by
  intro target named
  have first := scanned.items?_clean done named
  have second := scanned.items?_clean done' named
  refine ⟨first, fun alike => ?_, ?_⟩
  · rw [first, second]
    rcases alike with notDrivers | same
    · rw [rebuilt_of_ne notDrivers]
    · rw [same]
  · rintro rfl bare
    rw [first, bare, rebuilt_bare]

def oldDocument : Document :=
  ⟨⟨[("Kernel", .dictionary ⟨[("Add", .sequence
      [.dictionary ⟨[(Field.bundlePath, .ofText "A.kext"), (Field.executablePath, .ofText "X")]⟩,
        .dictionary ⟨[(Field.bundlePath, .ofText "A.kext"),
          (Field.executablePath, .ofText "Y")]⟩])]⟩),
    ("UEFI", .dictionary ⟨[("Drivers", .sequence [.ofText "Old.efi", .ofBool true])]⟩)]⟩⟩

def scannedComponents : List Component :=
  [{ relativePath := "A.kext", category := .kext, executablePath := some "Y" },
    { relativePath := "B.kext", category := .kext, executablePath := some "Y" },
    { relativePath := "New.efi", category := .driver }]

/-- A document with old lists and one with none get the same kexts; the former keeps bare paths. -/
theorem oldDocument_rebuilds :
    Unambiguous scannedComponents ∧ ∃ after log after' log',
      merge oldDocument scannedComponents .clean = .ok (after, log) ∧
      merge ⟨.empty⟩ scannedComponents .clean = .ok (after', log') ∧
      after'.items? .kernelAdd = after.items? .kernelAdd ∧
      after.items? .kernelAdd = some (rebuilt scannedComponents .kernelAdd true) ∧
      after.items? .uefiDrivers = some [.ofText (ComponentPath.normalize "New.efi")] := by
  have scanned : Unambiguous scannedComponents := ⟨by decide +kernel, by decide +kernel⟩
  have admits : ∀ target ∈ Target.all, oldDocument.Admits target := by
    intro target _
    cases target <;> exact admits_of_existingItems rfl
  have admits' : ∀ target ∈ Target.all, (⟨.empty⟩ : Document).Admits target := by
    intro target _
    cases target <;> exact admits_of_existingItems rfl
  obtain ⟨after, log, done, -⟩ := mergeTargets_of_admits scannedComponents .clean admits
  obtain ⟨after', log', done', -⟩ := mergeTargets_of_admits scannedComponents .clean admits'
  have kexts := clean_merge_rebuilds_from_disk scanned done done' .kernelAdd (Target.mem_all _)
  have drivers := clean_merge_rebuilds_from_disk scanned done done' .uefiDrivers (Target.mem_all _)
  refine ⟨scanned, after, log, after', log', done, done', ?_, kexts.1, drivers.2.2 rfl rfl⟩
  exact kexts.2.1 (Or.inl (by decide))

end BootSnapshot.Merge
