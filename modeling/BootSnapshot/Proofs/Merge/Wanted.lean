import BootSnapshot.Merge.Reconcile

set_option autoImplicit false

namespace BootSnapshot

/-- Two components are told apart by nothing in their list. -/
def Component.sameIdentity (identity : KextIdentity) (one other : Component) : Bool :=
  one.identifyingPath identity = other.identifyingPath identity

def Component.firstOf? (identity : KextIdentity) (components : List Component) (path : String) :
    Option Component :=
  components.find? fun component => component.identifyingPath identity = path

theorem Component.firstOf?_some {identity : KextIdentity} {components : List Component}
    {path : String} {component : Component}
    (found : firstOf? identity components path = some component) :
    component ∈ components ∧ component.identifyingPath identity = path := by
  have same := List.find?_some found
  exact ⟨List.mem_of_find?_eq_some found, of_decide_eq_true same⟩

theorem Component.firstOf?_isSome {identity : KextIdentity} {components : List Component}
    {component : Component} (member : component ∈ components) :
    (firstOf? identity components (component.identifyingPath identity)).isSome :=
  List.find?_isSome.mpr ⟨component, member, decide_eq_true rfl⟩

theorem Component.firstOf?_eq_none_iff {identity : KextIdentity} {components : List Component}
    {path : String} : firstOf? identity components path = none ↔
      ∀ component ∈ components, component.identifyingPath identity ≠ path := by
  unfold firstOf?
  rw [List.find?_eq_none]
  exact forall₂_congr fun _ _ => not_congr decide_eq_true_iff

namespace Merge.Wanted

theorem mem_firsts {seen : List String} {pairs : Wanted} {path : String} {component : Component} :
    (path, component) ∈ firsts seen pairs ↔
      path ∉ seen ∧ pairs.lookup path = some component := by
  induction pairs generalizing seen with
  | nil => simp only [firsts, List.not_mem_nil, List.lookup_nil, reduceCtorEq, and_false]
  | cons pair rest ih =>
    obtain ⟨first, other⟩ := pair
    by_cases known : first ∈ seen
    · simp only [firsts, known, ↓reduceIte, ih, List.lookup_cons]
      refine and_congr_right fun fresh => ?_
      have differ : (path == first) = false := beq_false_of_ne fun same => fresh (same ▸ known)
      rw [differ]
    · simp only [firsts, known, ↓reduceIte, List.mem_cons, ih, List.lookup_cons, Prod.mk.injEq,
        not_or]
      by_cases same : path = first
      · subst same
        simp only [beq_self_eq_true, Option.some_inj, not_true_eq_false, false_and, or_false,
          true_and, known, not_false_eq_true, eq_comm]
      · simp only [same, false_and, false_or, not_false_eq_true, true_and,
          beq_false_of_ne same]

theorem lookup_firsts (seen : List String) (pairs : Wanted) (path : String) :
    (firsts seen pairs).lookup path = if path ∈ seen then none else pairs.lookup path := by
  induction pairs generalizing seen with
  | nil => simp only [firsts, List.lookup_nil, ite_self]
  | cons pair rest ih =>
    obtain ⟨first, other⟩ := pair
    by_cases same : path = first
    · subst same
      by_cases known : path ∈ seen
      · simp only [firsts, known, ↓reduceIte, ih]
      · simp only [firsts, known, ↓reduceIte, List.lookup_cons, beq_self_eq_true]
    · have differ : (path == first) = false := beq_false_of_ne same
      by_cases known : first ∈ seen
      · simp only [firsts, known, ↓reduceIte, ih, List.lookup_cons, differ]
      · simp only [firsts, known, ↓reduceIte, ih, List.lookup_cons, differ, List.mem_cons, same,
          false_or]

/-- No identity is left twice. -/
theorem nodup_firsts (seen : List String) (pairs : Wanted) :
    ((firsts seen pairs).map Prod.fst).Nodup := by
  induction pairs generalizing seen with
  | nil => exact List.nodup_nil
  | cons pair rest ih =>
    obtain ⟨path, component⟩ := pair
    by_cases known : path ∈ seen
    · simp only [firsts, known, ↓reduceIte]
      exact ih seen
    · simp only [firsts, known, ↓reduceIte, List.map_cons]
      refine List.nodup_cons.mpr ⟨?_, ih (path :: seen)⟩
      intro again
      obtain ⟨⟨other, later⟩, member, rfl⟩ := List.mem_map.mp again
      exact (mem_firsts.mp member).1 List.mem_cons_self

/-- Nothing is left out where no identity occurs twice. -/
theorem firsts_of_nodup {seen : List String} {pairs : Wanted}
    (distinct : (pairs.map Prod.fst).Nodup) (fresh : ∀ pair ∈ pairs, pair.1 ∉ seen) :
    firsts seen pairs = pairs := by
  induction pairs generalizing seen with
  | nil => rfl
  | cons pair rest ih =>
    obtain ⟨path, component⟩ := pair
    obtain ⟨single, distinctRest⟩ := List.nodup_cons.mp distinct
    have unseen : path ∉ seen := fresh (path, component) List.mem_cons_self
    have later : ∀ other ∈ rest, other.1 ∉ path :: seen := by
      intro other member inside
      rcases List.mem_cons.mp inside with same | known
      · exact single (List.mem_map.mpr ⟨other, member, same⟩)
      · exact fresh other (List.mem_cons_of_mem _ member) known
    simp only [firsts, unseen, ↓reduceIte, ih distinctRest later]

section Components

variable (identity : KextIdentity) (components : List Component)

theorem lookup_components (path : String) :
    (components.map fun component => (component.identifyingPath identity, component)).lookup path =
      Component.firstOf? identity components path := by
  unfold Component.firstOf?
  induction components with
  | nil => rfl
  | cons component rest ih =>
    by_cases same : component.identifyingPath identity = path
    · simp only [List.map_cons, List.lookup_cons, same, beq_self_eq_true, decide_true,
        List.find?_cons_of_pos]
    · have differ : (path == component.identifyingPath identity) = false :=
        beq_false_of_ne (Ne.symm same)
      simp only [List.map_cons, List.lookup_cons, differ, ih, same, decide_false,
        List.find?_cons]

@[simp] theorem find?_ofComponents (path : String) :
    (ofComponents identity components).find? path =
      Component.firstOf? identity components path := by
  unfold find? ofComponents
  rw [lookup_firsts, lookup_components]
  rfl

theorem mem_ofComponents {path : String} {component : Component} :
    (path, component) ∈ ofComponents identity components ↔
      Component.firstOf? identity components path = some component := by
  unfold ofComponents
  rw [mem_firsts, lookup_components]
  exact and_iff_right List.not_mem_nil

theorem firsts_components (seen : List String) :
    firsts seen (components.map fun component => (component.identifyingPath identity, component)) =
      ((components.filter fun component =>
        component.identifyingPath identity ∉ seen).eraseDupsBy
          (Component.sameIdentity identity)).map fun component =>
            (component.identifyingPath identity, component) := by
  induction components generalizing seen with
  | nil => rfl
  | cons component rest ih =>
    rw [List.map_cons, firsts]
    by_cases known : component.identifyingPath identity ∈ seen
    · simp only [known, ↓reduceIte, ih, List.filter_cons, not_true_eq_false, decide_false,
        Bool.false_eq_true]
    · simp only [known, ↓reduceIte, ih, List.filter_cons, not_false_eq_true, decide_true,
        List.eraseDupsBy_cons, List.map_cons, List.filter_filter, Component.sameIdentity,
        decide_eq_false_iff_not, List.mem_cons, not_or, Bool.decide_and]

theorem ofComponents_eq :
    ofComponents identity components =
      (components.eraseDupsBy (Component.sameIdentity identity)).map fun component =>
        (component.identifyingPath identity, component) := by
  have every : (components.filter fun component =>
      component.identifyingPath identity ∉ ([] : List String)) = components :=
    List.filter_eq_self.mpr fun _ _ => decide_eq_true List.not_mem_nil
  unfold ofComponents
  rw [firsts_components, every]

/-- Components that stand for an identity have different ones. -/
theorem pairwise_eraseDupsBy :
    (components.eraseDupsBy (Component.sameIdentity identity)).Pairwise fun one other =>
      one.identifyingPath identity ≠ other.identifyingPath identity := by
  have distinct : ((ofComponents identity components).map Prod.fst).Nodup := nodup_firsts [] _
  rw [ofComponents_eq, List.map_map] at distinct
  exact List.pairwise_map.mp distinct

end Components

end Merge.Wanted
end BootSnapshot
