import BootSnapshot.Proofs.Merge.Reconcile
import BootSnapshot.Proofs.Merge.Sharing

set_option autoImplicit false

namespace BootSnapshot.Merge

open ExistingEntry

/-- The item is the component's, whichever bundle paths are shared, and its paths are up to date. -/
structure StandsFor (target : Target) (node : Node) (component : Component) : Prop where
  path : ∀ identity, pathOf? target identity node = some (component.identifyingPath identity)
  current : target = .kernelAdd → ∃ fields, node = .dictionary fields ∧
    fields.textOrEmpty Field.executablePath = component.executablePath.getD "" ∧
    fields.textOrEmpty Field.plistPath = component.infoPath.getD ""

/-- The item is not recognized, and no component has an identity to change it by. -/
structure Foreign (target : Target) (components : List Component) (node : Node) : Prop where
  unknown : ∀ identity, pathOf? target identity node = none
  unmatched : target = .kernelAdd → ∀ fields, node = .dictionary fields → ∀ identity,
    Component.firstOf? identity components (identity.ofDictionary fields) = none

/-- The component is the one that stands for its identity. -/
def IsFirst (identity : KextIdentity) (components : List Component) (component : Component) :
    Prop :=
  Component.firstOf? identity components (component.identifyingPath identity) = some component

/-- Every component has an item that stands for it under any identity of kexts, and the items that
stand for none are not recognized. -/
structure Settled (target : Target) (identity : KextIdentity) (components : List Component)
    (items : List Node) : Prop where
  known : ∀ node ∈ items, Foreign target components node ∨
    ∃ component, IsFirst identity components component ∧ StandsFor target node component
  complete : ∀ component, IsFirst identity components component →
    ∃ node ∈ items, StandsFor target node component

section Settled

variable {target : Target} {identity : KextIdentity} {components : List Component}

theorem isFirst_of_firstOf? {path : String} {component : Component}
    (found : Component.firstOf? identity components path = some component) :
    IsFirst identity components component ∧ component.identifyingPath identity = path := by
  obtain ⟨-, same⟩ := Component.firstOf?_some found
  refine ⟨?_, same⟩
  unfold IsFirst
  rw [same, found]

theorem Settled.congr {items : List Node} (settled : Settled target identity components items)
    {another : KextIdentity} (same : SameIdentities identity another components) :
    Settled target another components items := by
  have first (component : Component) :
      IsFirst identity components component ↔ IsFirst another components component := by
    constructor
    · intro first
      have member := (Component.firstOf?_some first).1
      exact (firstOf?_congr same member).symm.trans first
    · intro first
      have member := (Component.firstOf?_some first).1
      exact (firstOf?_congr same member).trans first
  constructor
  · intro node member
    rcases settled.known node member with foreign | ⟨component, isFirst, stands⟩
    · exact Or.inl foreign
    · exact Or.inr ⟨component, (first component).mp isFirst, stands⟩
  · intro component isFirst
    exact settled.complete component ((first component).mpr isFirst)

theorem Settled.stays {items : List Node} (settled : Settled target identity components items)
    {node : Node} (member : node ∈ items) :
    Merge.stays target identity components node = true := by
  rcases settled.known node member with foreign | ⟨component, isFirst, stands⟩
  · exact stays_of_unrecognized (foreign.unknown identity)
  · rw [stays_iff_of_pathOf? components (stands.path identity), isFirst]
    rfl

theorem Settled.missing_eq_nil {items : List Node}
    (settled : Settled target identity components items) :
    missing (Wanted.ofComponents identity components) (matched target identity items) = [] := by
  refine List.filter_eq_nil_iff.mpr ?_
  rintro ⟨path, component⟩ member
  obtain ⟨isFirst, rfl⟩ := isFirst_of_firstOf?
    ((Wanted.mem_ofComponents identity components).mp member)
  obtain ⟨node, inside, stands⟩ := settled.complete component isFirst
  have present : component.identifyingPath identity ∈ matched target identity items :=
    List.mem_filterMap.mpr ⟨node, inside, stands.path identity⟩
  simp only [present, not_true_eq_false, decide_false, Bool.false_eq_true, not_false_eq_true]

theorem Settled.updateKext_eq {items : List Node}
    (settled : Settled .kernelAdd identity components items) {node : Node}
    (member : node ∈ items) (index : Nat) :
    updateKext identity (Wanted.ofComponents identity components) index node = (node, []) := by
  rcases settled.known node member with foreign | ⟨component, isFirst, stands⟩
  · cases dictionary : node.dictionary? with
    | none => exact updateKext_other dictionary _ index
    | some fields =>
      obtain rfl := Node.eq_of_dictionary? dictionary
      refine updateKext_of_current (fun other found => ?_) index
      rw [foreign.unmatched rfl fields rfl identity] at found
      cases found
  · obtain ⟨fields, rfl, executable, plist⟩ := stands.current rfl
    refine updateKext_of_current (fun other found => ?_) index
    have identified : identity.ofDictionary fields = component.identifyingPath identity :=
      (keyIn_of_pathOf? (stands.path identity)).2
    rw [identified] at found
    obtain rfl : component = other := Option.some_inj.mp (isFirst.symm.trans found)
    exact ⟨executable, plist⟩

/-- A settled list stays as it is. -/
theorem Settled.reconcile_eq {items : List Node}
    (settled : Settled target identity components items)
    (same : SameIdentities identity (identityFor target items components) components) :
    reconcile target items components .additive = ⟨items, []⟩ := by
  have again := settled.congr same
  have all : items.filter (Merge.stays target (identityFor target items components) components) =
      items := List.filter_eq_self.mpr fun _ member => again.stays member
  have removals := staleChanges_eq_nil (fun _ member => again.stays member) 0
  have added := again.missing_eq_nil
  by_cases kexts : target = .kernelAdd
  · subst kexts
    have updates := updateKexts_of_current (fun _ member => again.updateKext_eq member) 0
    simp only [reconcile, ↓reduceIte, kept_eq, all, removals, added, updates, Outcome.append,
      List.map_nil, List.append_nil, addedChanges]
  · simp only [reconcile, kexts, ↓reduceIte, kept_eq, all, removals, added, Outcome.append,
      List.map_nil, List.append_nil, addedChanges]

end Settled

end BootSnapshot.Merge
