import BootSnapshot.Merge.Basic
import BootSnapshot.Proofs.Merge.Reconcile

set_option autoImplicit false

namespace BootSnapshot.Merge

open ExistingEntry KextPaths

def Linked (identity : KextIdentity) (one other : KextPaths) : Prop :=
  LeadsTo identity one other ∨ LeadsTo identity other one

/-- A dictionary stays as it is or takes the paths of a component of its bundle, or of one to which
it leads or that leads to it. -/
def Follows (identity : KextIdentity) (kexts : List Component) (node after : Node) : Prop :=
  ∀ fields, node = .dictionary fields → ∃ changed, after = .dictionary changed ∧
    (changed = fields ∨ ∃ component ∈ kexts,
      ofDictionary changed = { ofComponent component with bundle := (ofDictionary fields).bundle } ∧
      ((ofDictionary fields).bundleKey ≠ (ofComponent component).bundleKey →
        Linked identity (ofDictionary fields) (ofComponent component)))

/-- How far the identities of kexts tell their bundles apart. -/
structure BundlesApart (identity : KextIdentity) (existing : List Node)
    (kexts : List Component) : Prop where
  /-- A recognized item has the identity of a component of another bundle only if one leads to the
  other, and then it has. -/
  items : ∀ fields, .dictionary fields ∈ existing → ∀ path,
    pathOf? .kernelAdd identity (.dictionary fields) = some path → ∀ component ∈ kexts,
      (ofDictionary fields).bundleKey ≠ (ofComponent component).bundleKey →
      (path = component.identifyingPath identity ↔
        Linked identity (ofDictionary fields) (ofComponent component))
  /-- So it is with two components. -/
  components : ∀ one ∈ kexts, ∀ other ∈ kexts,
    (ofComponent one).bundleKey ≠ (ofComponent other).bundleKey →
    (one.identifyingPath identity = other.identifyingPath identity ↔
      Linked identity (ofComponent one) (ofComponent other))
  /-- The component that stands for another one has its bundle, or one leads to the other. -/
  wanted : ∀ component ∈ kexts, ∃ first ∈ kexts,
    (Wanted.ofComponents identity kexts).find? (component.identifyingPath identity) = some first ∧
    ((ofComponent component).bundleKey ≠ (ofComponent first).bundleKey →
      Linked identity (ofComponent component) (ofComponent first))
  /-- Bringing items up to date respects their bundles. -/
  updates : ∀ items index, List.Forall₂ (Follows identity kexts) items
    (updateKexts identity (Wanted.ofComponents identity kexts) index items).1

section Identity

variable {identity : KextIdentity} {kexts : List Component}

theorem linked_of_identity {kext : KextPaths} {component : Component}
    (category : component.category = .kext)
    (same : component.identifyingPath identity = kext.keyIn identity) :
    kext.bundleKey ≠ (ofComponent component).bundleKey →
      Linked identity kext (ofComponent component) := by
  intro apart
  rw [← keyIn_ofComponent identity category] at same
  exact (keyIn_eq_iff_leadsTo apart).mp same.symm

theorem follows_updateKext (category : ∀ component ∈ kexts, component.category = .kext)
    (node : Node) (index : Nat) : Follows identity kexts node
      (updateKext identity (Wanted.ofComponents identity kexts) index node).1 := by
  rintro fields rfl
  obtain ⟨after, updated, refreshed⟩ := updateKext_dictionary identity kexts index fields
  refine ⟨after, updated, ?_⟩
  cases found : Component.firstOf? identity kexts (identity.ofDictionary fields) with
  | none => exact Or.inl (refreshed.unmatched found)
  | some component =>
    obtain ⟨inside, same⟩ := Component.firstOf?_some found
    obtain ⟨executable, plist⟩ := refreshed.current component found
    refine Or.inr ⟨component, inside, ?_, linked_of_identity (category component inside) same⟩
    simp only [ofDictionary, ofComponent, executable, plist, refreshed.bundle]

theorem bundlesApart (existing : List Node)
    (category : ∀ component ∈ kexts, component.category = .kext) :
    BundlesApart identity existing kexts where
  items fields _ path known component member apart := by
    rw [← (keyIn_of_pathOf? known).2, ← keyIn_ofComponent identity (category component member)]
    exact keyIn_eq_iff_leadsTo apart
  components one first other second apart := by
    rw [← keyIn_ofComponent identity (category one first),
      ← keyIn_ofComponent identity (category other second)]
    exact keyIn_eq_iff_leadsTo apart
  wanted component member := by
    have present : (Component.firstOf? identity kexts (component.identifyingPath identity)).isSome :=
      Component.firstOf?_isSome member
    obtain ⟨first, found⟩ := Option.isSome_iff_exists.mp present
    obtain ⟨inside, same⟩ := Component.firstOf?_some found
    rw [← keyIn_ofComponent identity (category component member)] at same
    exact ⟨first, inside, (Wanted.find?_ofComponents identity kexts _).trans found,
      linked_of_identity (category first inside) same⟩
  updates items index :=
    forall₂_updateKexts (fun node _ position => follows_updateKext category node position) index

end Identity

/-- Under the identities of a merge, kexts of different bundles are confused exactly if one leads
to the other. -/
theorem kext_bundles_apart_unless_linked (existing : List Node) (discovered : List Component) :
    BundlesApart (identityFor .kernelAdd existing (ofCategory discovered .kext)) existing
      (ofCategory discovered .kext) :=
  bundlesApart existing fun _ member => of_decide_eq_true (List.mem_filter.mp member).2

/-- An item whose executable path leads to the plug-in inside its bundle. -/
def hostFields : Dictionary Node :=
  ⟨[(Field.bundlePath, .ofText "A.kext"), (Field.executablePath, .ofText "B.kext")]⟩

/-- The item behind another one of its bundle, whose path is a shared one therefore. -/
def hostItems : List Node :=
  [.dictionary ⟨[(Field.bundlePath, .ofText "A.kext"), (Field.executablePath, .ofText "A")]⟩,
    .dictionary hostFields]

def guest : Component :=
  { relativePath := "A.kext/B.kext", category := .kext, executablePath := some "B" }

def hostAndGuest : List Component :=
  [{ relativePath := "A.kext", category := .kext, executablePath := some "A" }, guest]

/-- The item of the host has the identity of the guest; it takes the guest's executable, and the
guest gets no item. -/
theorem host_taken_for_guest :
    let identity := identityFor .kernelAdd hostItems hostAndGuest
    .dictionary hostFields ∈ hostItems ∧ guest ∈ hostAndGuest ∧
    pathOf? .kernelAdd identity (.dictionary hostFields) = some (guest.identifyingPath identity) ∧
    (ofDictionary hostFields).bundleKey ≠ (ofComponent guest).bundleKey ∧
    ((reconcile .kernelAdd hostItems hostAndGuest .additive).items.filterMap
        Node.dictionary?).map ofDictionary = [⟨"A.kext", "A", ""⟩, ⟨"A.kext", "B", ""⟩] := by
  refine ⟨?_, ?_, ?_⟩
  · exact List.mem_cons_of_mem _ List.mem_cons_self
  · exact List.mem_cons_of_mem _ List.mem_cons_self
  · decide +kernel

end BootSnapshot.Merge
