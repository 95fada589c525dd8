import Mathlib.Data.List.Find
import BootSnapshot.Proofs.Merge.Recognition
import BootSnapshot.Proofs.Merge.Wanted

set_option autoImplicit false

namespace BootSnapshot.Merge

open KextPaths

theorem mem_repeated {path : String} {paths : List String} :
    path ∈ KextIdentity.repeated paths ↔ path ∈ paths ∧ 1 < paths.count path := by
  simp only [KextIdentity.repeated, List.mem_filter, decide_eq_true_eq]

/-- What occurs at two places is repeated. -/
theorem pairwise_repeated (paths : List String) :
    paths.Pairwise fun one other => one = other → one ∈ KextIdentity.repeated paths := by
  rw [List.pairwise_iff_forall_sublist]
  rintro one other places rfl
  have twice := places.count_le one
  rw [List.count_cons_self, List.count_cons_self, List.count_nil] at twice
  exact mem_repeated.mpr ⟨places.subset List.mem_cons_self, by omega⟩

/-- Components with one path that occurs once are one component. -/
theorem eq_of_not_repeated {path : Component → String} {components : List Component}
    {one other : Component} (first : one ∈ components) (second : other ∈ components)
    (same : path one = path other)
    (single : path one ∉ KextIdentity.repeated (components.map path)) : one = other := by
  have once : (components.map path).count (path one) ≤ 1 := by
    by_contra more
    exact single (mem_repeated.mpr ⟨List.mem_map_of_mem first, by omega⟩)
  clear single
  induction components with
  | nil => cases first
  | cons component rest ih =>
    have later {between : Component} (member : between ∈ rest) (equal : path between = path one) :
        0 < (rest.map path).count (path one) :=
      List.count_pos_iff.mpr (equal ▸ List.mem_map_of_mem member)
    rw [List.map_cons, List.count_cons] at once
    rcases List.mem_cons.mp first with rfl | early
    · rcases List.mem_cons.mp second with rfl | late
      · rfl
      · have again := later late same.symm
        simp only [beq_self_eq_true, ↓reduceIte] at once
        omega
    · rcases List.mem_cons.mp second with rfl | late
      · have again := later early rfl
        simp only [same, beq_self_eq_true, ↓reduceIte] at once again
        omega
      · exact ih early late (by omega)

/-- Bundle paths that occur twice among the components are shared. -/
def Knows (identity : KextIdentity) (components : List Component) : Prop :=
  ∀ bundle ∈ KextIdentity.repeated
    (components.map fun component => ComponentPath.normalize component.relativePath),
    identity.isShared bundle = true

theorem knows_ofSides (existing : List Node) (components : List Component) :
    Knows (.ofSides existing components) components := by
  intro bundle twice
  exact List.contains_iff_mem.mpr (List.mem_append_right _ twice)

def kextsOf (items : List Node) (components : List Component) : List KextPaths :=
  (items.filterMap Node.dictionary?).map ofDictionary ++ components.map ofComponent

theorem ofComponent_mem_kextsOf (items : List Node) {components : List Component}
    {component : Component} (member : component ∈ components) :
    ofComponent component ∈ kextsOf items components :=
  List.mem_append_right _ (List.mem_map_of_mem member)

theorem ofDictionary_mem_kextsOf {items : List Node} {fields : Dictionary Node}
    (member : .dictionary fields ∈ items) (components : List Component) :
    ofDictionary fields ∈ kextsOf items components := by
  refine List.mem_append_left _ (List.mem_map_of_mem ?_)
  exact List.mem_filterMap.mpr ⟨_, member, rfl⟩

def SameIdentities (one another : KextIdentity) (components : List Component) : Prop :=
  ∀ first ∈ components, ∀ second ∈ components,
    first.identifyingPath one = second.identifyingPath one ↔
      first.identifyingPath another = second.identifyingPath another

theorem identity_of_identity {one another : KextIdentity} {components : List Component}
    (category : ∀ component ∈ components, component.category = .kext)
    (apart : Apart (components.map ofComponent)) (knowsOne : Knows one components)
    (knowsAnother : Knows another components) {first second : Component}
    (inside : first ∈ components) (alike : second ∈ components)
    (same : first.identifyingPath one = second.identifyingPath one) :
    first.identifyingPath another = second.identifyingPath another := by
  rw [← keyIn_ofComponent one (category first inside),
    ← keyIn_ofComponent one (category second alike)] at same
  have bundle : (ofComponent first).bundleKey = (ofComponent second).bundleKey :=
    apart.bundleKey_eq (List.mem_map_of_mem inside) (List.mem_map_of_mem alike) one same
  by_cases twice : (ofComponent first).bundleKey ∈ KextIdentity.repeated
      (components.map fun component => ComponentPath.normalize component.relativePath)
  · have sharedOne := knowsOne _ twice
    have sharedAnother := knowsAnother _ twice
    rw [← keyIn_ofComponent another (category first inside),
      ← keyIn_ofComponent another (category second alike)]
    rw [keyIn_eq, keyIn_eq, ← bundle, if_pos sharedOne, if_pos sharedOne] at same
    rw [keyIn_eq, keyIn_eq, ← bundle, if_pos sharedAnother, if_pos sharedAnother, same]
  · rw [eq_of_not_repeated inside alike bundle twice]

/-- Identities that know the bundle paths of the components tell the same components apart. -/
theorem sameIdentities_of_knows {target : Target} {one another : KextIdentity}
    {components : List Component}
    (category : ∀ component ∈ components, component.category = target.category)
    (apart : target = .kernelAdd → Apart (components.map ofComponent))
    (knows : target = .kernelAdd → Knows one components ∧ Knows another components) :
    SameIdentities one another components := by
  intro first inside second alike
  by_cases kexts : target = .kernelAdd
  · subst kexts
    obtain ⟨knowsOne, knowsAnother⟩ := knows rfl
    constructor
    · exact identity_of_identity category (apart rfl) knowsOne knowsAnother inside alike
    · exact identity_of_identity category (apart rfl) knowsAnother knowsOne inside alike
  · simp only [identifyingPath_of_ne kexts (category first inside),
      identifyingPath_of_ne kexts (category second alike)]

theorem firstOf?_congr {one another : KextIdentity} {components : List Component}
    (same : SameIdentities one another components) {component : Component}
    (member : component ∈ components) :
    Component.firstOf? one components (component.identifyingPath one) =
      Component.firstOf? another components (component.identifyingPath another) := by
  unfold Component.firstOf?
  refine List.find?_congr fun other inside => ?_
  exact decide_eq_decide.mpr (same other inside component member)

end BootSnapshot.Merge
