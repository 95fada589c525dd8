import BootSnapshot.Proofs.Merge.InPlace
import BootSnapshot.Proofs.Merge.Reconcile

set_option autoImplicit false

namespace BootSnapshot.Merge

open ExistingEntry

/-- What an additive merge may make of an item that stays. -/
structure Carried (target : Target) (identity : KextIdentity) (components : List Component)
    (node after : Node) : Prop where
  /-- Only dictionaries in the list of kexts may change. -/
  same : target ≠ .kernelAdd ∨ node.dictionary? = none → after = node
  /-- They keep all but two of their entries, in their order, and those two hold the paths of the
  component if the item is recognized. -/
  kext : target = .kernelAdd → ∀ fields, node = .dictionary fields →
    ∃ changed, after = .dictionary changed ∧ Refreshed identity components fields changed ∧
      ∀ path, pathOf? target identity node = some path →
        ∃ component, Component.firstOf? identity components path = some component ∧
          changed.textOrEmpty Field.executablePath = component.executablePath.getD "" ∧
          changed.textOrEmpty Field.plistPath = component.infoPath.getD ""

/-- What an additive merge must make of a list. -/
def MergedInto (target : Target) (existing : List Node) (components : List Component)
    (result : List Node) : Prop :=
  let identity := identityFor target existing components
  let bare := target = .uefiDrivers && holdsBarePaths existing
  ∃ kept, List.Forall₂ (Carried target identity components)
      (existing.filter (stays target identity components)) kept ∧
    result = kept ++ (newcomers target identity existing components).map (defaultEntry · bare)

section Items

variable {identity : KextIdentity} {components : List Component}

theorem carried_of_ne {target : Target} (other : target ≠ .kernelAdd) (node : Node) :
    Carried target identity components node node where
  same _ := rfl
  kext kexts := absurd kexts other

theorem carried_updateKext {node : Node}
    (here : stays .kernelAdd identity components node = true) (index : Nat) :
    Carried .kernelAdd identity components node
      (updateKext identity (Wanted.ofComponents identity components) index node).1 := by
  refine ⟨fun other => ?_, fun _ fields dictionary => ?_⟩
  · rcases other with notKexts | other
    · exact absurd rfl notKexts
    · rw [updateKext_other other]
  · subst dictionary
    obtain ⟨after, updated, refreshed⟩ := updateKext_dictionary identity components index fields
    refine ⟨after, updated, refreshed, fun path known => ?_⟩
    have found := (stays_iff_of_pathOf? components known).mp here
    obtain ⟨component, first⟩ := Option.isSome_iff_exists.mp found
    have identified : identity.ofDictionary fields = path := (keyIn_of_pathOf? known).2
    exact ⟨component, first, refreshed.current component (identified ▸ first)⟩

theorem carried_updateKexts {items : List Node}
    (here : ∀ node ∈ items, stays .kernelAdd identity components node = true) (index : Nat) :
    List.Forall₂ (Carried .kernelAdd identity components) items
      (updateKexts identity (Wanted.ofComponents identity components) index items).1 :=
  forall₂_updateKexts (fun node member => carried_updateKext (here node member)) index

end Items

theorem mergedInto_reconcile (target : Target) (existing : List Node)
    (components : List Component) :
    MergedInto target existing components (reconcile target existing components .additive).items := by
  unfold MergedInto
  by_cases kexts : target = .kernelAdd
  · subst kexts
    refine ⟨_, carried_updateKexts (fun node member => (List.mem_filter.mp member).2) 0, ?_⟩
    simp only [reconcile, ↓reduceIte, Outcome.append, kept_eq, missing_eq, List.map_map]
    rfl
  · refine ⟨_, List.forall₂_same.mpr fun node _ => carried_of_ne kexts node, ?_⟩
    simp only [reconcile, kexts, ↓reduceIte, Outcome.append, kept_eq, missing_eq, List.map_map]
    rfl

/-- An additive merge of lists of the right kinds succeeds, and of every list it keeps exactly the
items that are not recognized or have a component, and appends the components that had no item. -/
theorem additive_merge_keeps_and_appends {document : Document} (discovered : List Component)
    {targets : List Target} (admits : ∀ target ∈ targets, document.Admits target)
    {target : Target} (named : target ∈ targets) :
    ∃ after log result, mergeTargets document discovered .additive targets = .ok (after, log) ∧
      after.items? target = some result ∧
      MergedInto target ((document.items? target).getD [])
        (ofCategory discovered target.category) result := by
  obtain ⟨after, log, done, merged⟩ := mergeTargets_of_admits discovered .additive admits
  exact ⟨after, log, _, done, merged.lists target named, mergedInto_reconcile _ _ _⟩

/-- A list of kexts with one whose executable moved, one that is gone, and an unknown item. -/
def outdatedKexts : List Node :=
  [.dictionary ⟨[("Arch", .ofText "x86_64"), (Field.bundlePath, .ofText "Lilu.kext"),
      (Field.enabled, .ofBool false), (Field.executablePath, .ofText "Contents/MacOS/Old"),
      (Field.plistPath, .ofText "Contents/Info.plist")]⟩,
    .ofText "later",
    .dictionary ⟨[(Field.bundlePath, .ofText "Gone.kext")]⟩]

def outdatedDocument : Document :=
  ⟨⟨[("Kernel", .dictionary ⟨[("Add", .sequence outdatedKexts), ("Quirks", .emptyDictionary)]⟩)]⟩⟩

def foundKexts : List Component :=
  [{ relativePath := "Lilu.kext", category := .kext,
     executablePath := some "Contents/MacOS/Lilu", infoPath := some "Contents/Info.plist" },
    { relativePath := "VirtualSMC.kext", category := .kext,
      infoPath := some "Contents/Info.plist" }]

theorem additive_merge_of_outdatedDocument :
    (∀ target ∈ [Target.miscTools, .kernelAdd], outdatedDocument.Admits target) ∧
    Target.kernelAdd ∈ [Target.miscTools, .kernelAdd] ∧
    ∃ after log result,
      mergeTargets outdatedDocument foundKexts .additive [.miscTools, .kernelAdd] =
        .ok (after, log) ∧
      after.items? .kernelAdd = some result ∧
      MergedInto .kernelAdd outdatedKexts foundKexts result := by
  have admits : ∀ target ∈ [Target.miscTools, .kernelAdd], outdatedDocument.Admits target := by
    intro target member
    simp only [List.mem_cons, List.not_mem_nil, or_false] at member
    rcases member with rfl | rfl
    · have read : existingItems outdatedDocument .miscTools = .ok [] := rfl
      exact admits_of_existingItems read
    · have read : existingItems outdatedDocument .kernelAdd = .ok outdatedKexts := rfl
      exact admits_of_existingItems read
  have named : Target.kernelAdd ∈ [Target.miscTools, .kernelAdd] := by decide
  exact ⟨admits, named, additive_merge_keeps_and_appends foundKexts admits named⟩

end BootSnapshot.Merge
