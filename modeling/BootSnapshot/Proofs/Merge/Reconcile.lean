import Mathlib.Data.List.Forall2
import BootSnapshot.Proofs.Merge.Recognition
import BootSnapshot.Proofs.Merge.Wanted

set_option autoImplicit false

namespace BootSnapshot.Merge

open ExistingEntry

/-- An item stays in a list if it is not recognized or a component has its identity. -/
def stays (target : Target) (identity : KextIdentity) (components : List Component)
    (node : Node) : Bool :=
  (pathOf? target identity node).all fun path =>
    components.any fun component => component.identifyingPath identity = path

/-- The components that stand for identities which no recognized item has. -/
def newcomers (target : Target) (identity : KextIdentity) (existing : List Node)
    (components : List Component) : List Component :=
  (components.eraseDupsBy (Component.sameIdentity identity)).filter fun component =>
    component.identifyingPath identity ∉ existing.filterMap (pathOf? target identity)

section Passes

variable {target : Target} {identity : KextIdentity} {components : List Component}

theorem stays_of_unrecognized {node : Node} (unknown : pathOf? target identity node = none) :
    stays target identity components node = true := by
  simp only [stays, unknown, Option.all_none]

variable (components) in
theorem stays_iff_of_pathOf? {node : Node} {path : String}
    (known : pathOf? target identity node = some path) :
    stays target identity components node = true ↔
      (Component.firstOf? identity components path).isSome := by
  simp only [stays, known, Option.all_some, List.any_eq_true, Component.firstOf?,
    List.find?_isSome]

theorem stale?_eq (node : Node) :
    stale? target identity (Wanted.ofComponents identity components) node =
      if stays target identity components node then none else pathOf? target identity node := by
  cases projected : project? target 0 node identity with
  | none =>
    have unknown : pathOf? target identity node = none := by
      simp only [pathOf?, projected, Option.map_none]
    simp only [stale?, projected, stays_of_unrecognized unknown, ↓reduceIte]
  | some entry =>
    have known : pathOf? target identity node = some entry.identifyingPath := by
      simp only [pathOf?, projected, Option.map_some]
    have wanted := stays_iff_of_pathOf? components known
    cases found : Component.firstOf? identity components entry.identifyingPath with
    | none =>
      have gone : ¬ stays target identity components node = true := by
        rw [wanted, found]
        exact Bool.false_ne_true
      simp only [stale?, projected, Wanted.find?_ofComponents, found, Option.isNone_none,
        ↓reduceIte, gone, Bool.false_eq_true, known]
    | some component =>
      have here : stays target identity components node = true := by
        rw [wanted, found]
        rfl
      simp only [stale?, projected, Wanted.find?_ofComponents, found, Option.isNone_some,
        Bool.false_eq_true, ↓reduceIte, here]

theorem kept_eq (existing : List Node) :
    kept target identity (Wanted.ofComponents identity components) existing =
      existing.filter (stays target identity components) := by
  unfold kept
  refine List.filter_congr fun node _ => ?_
  rw [stale?_eq]
  cases here : stays target identity components node with
  | true => rfl
  | false =>
    cases known : pathOf? target identity node with
    | none =>
      rw [stays_of_unrecognized known] at here
      cases here
    | some path => rfl

theorem staleChanges_eq_nil {items : List Node}
    (all : ∀ node ∈ items, stays target identity components node = true) (index : Nat) :
    staleChanges target identity (Wanted.ofComponents identity components) index items = [] := by
  induction items generalizing index with
  | nil => rfl
  | cons node rest ih =>
    have head := all node List.mem_cons_self
    have tail := ih fun other member => all other (List.mem_cons_of_mem node member)
    simp only [staleChanges, stale?_eq, head, ↓reduceIte, tail]

/-- A kept item has the identity of a component exactly if an item has. -/
theorem mem_matched_stays {existing : List Node} {component : Component}
    (member : component ∈ components) :
    component.identifyingPath identity ∈ matched target identity
        (existing.filter (stays target identity components)) ↔
      component.identifyingPath identity ∈ existing.filterMap (pathOf? target identity) := by
  change _ ∈ (existing.filter _).filterMap (pathOf? target identity) ↔ _
  simp only [List.mem_filterMap, List.mem_filter]
  constructor
  · rintro ⟨node, ⟨inside, -⟩, known⟩
    exact ⟨node, inside, known⟩
  · rintro ⟨node, inside, known⟩
    exact ⟨node, ⟨inside, (stays_iff_of_pathOf? components known).mpr (Component.firstOf?_isSome member)⟩,
      known⟩

theorem missing_eq (existing : List Node) :
    missing (Wanted.ofComponents identity components) (matched target identity
        (existing.filter (stays target identity components))) =
      (newcomers target identity existing components).map fun component =>
        (component.identifyingPath identity, component) := by
  have same : ∀ pair ∈ Wanted.ofComponents identity components,
      decide (pair.1 ∉ matched target identity
        (existing.filter (stays target identity components))) =
      decide (pair.1 ∉ existing.filterMap (pathOf? target identity)) := by
    rintro ⟨path, component⟩ member
    obtain ⟨inside, rfl⟩ := Component.firstOf?_some
      ((Wanted.mem_ofComponents identity components).mp member)
    exact decide_eq_decide.mpr (not_congr (mem_matched_stays inside))
  change (Wanted.ofComponents identity components).filter (fun pair => decide (pair.1 ∉ _)) = _
  rw [List.filter_congr same, Wanted.ofComponents_eq, List.filter_map]
  rfl

end Passes

def followedKeys : List String := [Field.executablePath, Field.plistPath]

theorem textOrEmpty_updateField (index : Nat) (path field new : String)
    (fields : Dictionary Node) :
    (updateField index path field new fields).1.textOrEmpty field = new := by
  unfold updateField
  by_cases same : fields.textOrEmpty field = new
  · simp only [same, ↓reduceIte]
  · simp only [same, ↓reduceIte, Dictionary.textOrEmpty_insert_self]

theorem textOrEmpty_updateField_ne {field other : String} (apart : other ≠ field) (index : Nat)
    (path new : String) (fields : Dictionary Node) :
    (updateField index path field new fields).1.textOrEmpty other = fields.textOrEmpty other := by
  unfold updateField
  by_cases same : fields.textOrEmpty field = new
  · simp only [same, ↓reduceIte]
  · simp only [same, ↓reduceIte, Dictionary.textOrEmpty_insert_ne _ _ apart]

theorem filter_updateField {field : String} (followed : field ∈ followedKeys) (index : Nat)
    (path new : String) (fields : Dictionary Node) :
    (updateField index path field new fields).1.entries.filter (·.1 ∉ followedKeys) =
      fields.entries.filter (·.1 ∉ followedKeys) := by
  unfold updateField
  by_cases same : fields.textOrEmpty field = new
  · simp only [same, ↓reduceIte]
  · simp only [same, ↓reduceIte, Dictionary.insert]
    exact Dictionary.filter_put (fun key => key ∉ followedKeys)
      (decide_eq_false fun absent => absent followed) (.ofText new) fields.entries

theorem updateField_of_same {index : Nat} {path field new : String} {fields : Dictionary Node}
    (same : fields.textOrEmpty field = new) :
    updateField index path field new fields = (fields, []) := if_pos same

/-- What becomes of the dictionary of a kept kext. -/
structure Refreshed (identity : KextIdentity) (components : List Component)
    (fields after : Dictionary Node) : Prop where
  others : after.entries.filter (·.1 ∉ followedKeys) = fields.entries.filter (·.1 ∉ followedKeys)
  bundle : after.textOrEmpty Field.bundlePath = fields.textOrEmpty Field.bundlePath
  unmatched : Component.firstOf? identity components (identity.ofDictionary fields) = none →
    after = fields
  current : ∀ component,
    Component.firstOf? identity components (identity.ofDictionary fields) = some component →
      after.textOrEmpty Field.executablePath = component.executablePath.getD "" ∧
      after.textOrEmpty Field.plistPath = component.infoPath.getD ""

/-- Texts under other keys than the followed ones stay. -/
theorem Refreshed.text?_eq {identity : KextIdentity} {components : List Component}
    {fields after : Dictionary Node} (refreshed : Refreshed identity components fields after)
    {key : String} (other : key ∉ followedKeys) : after.text? key = fields.text? key := by
  have kept : decide (key ∉ followedKeys) = true := decide_eq_true other
  have found : after.get? key = fields.get? key := by
    have before := Dictionary.lookup_filter (fun name => name ∉ followedKeys) kept fields.entries
    have later := Dictionary.lookup_filter (fun name => name ∉ followedKeys) kept after.entries
    rw [refreshed.others] at later
    exact later.symm.trans before
  simp only [Dictionary.text?, found]

section Kexts

variable {identity : KextIdentity} {components : List Component}

variable (identity components) in
theorem updateKext_dictionary (index : Nat) (fields : Dictionary Node) :
    ∃ after, (updateKext identity (Wanted.ofComponents identity components) index
        (.dictionary fields)).1 = .dictionary after ∧
      Refreshed identity components fields after := by
  simp only [updateKext, Wanted.find?_ofComponents]
  cases found : Component.firstOf? identity components (identity.ofDictionary fields) with
  | none =>
    refine ⟨fields, rfl, rfl, rfl, fun _ => rfl, fun component found' => ?_⟩
    rw [found] at found'
    cases found'
  | some component =>
    refine ⟨_, rfl, ?_, ?_, fun absent => ?_, fun other found' => ?_⟩
    · rw [filter_updateField (by decide), filter_updateField (by decide)]
    · rw [textOrEmpty_updateField_ne (by decide), textOrEmpty_updateField_ne (by decide)]
    · rw [found] at absent
      cases absent
    · obtain rfl : component = other := Option.some_inj.mp (found.symm.trans found')
      rw [textOrEmpty_updateField, textOrEmpty_updateField_ne (by decide),
        textOrEmpty_updateField]
      exact ⟨rfl, rfl⟩

theorem updateKext_other {node : Node} (other : node.dictionary? = none) (wanted : Wanted)
    (index : Nat) : updateKext identity wanted index node = (node, []) := by
  cases node with
  | dictionary fields => cases other
  | sequence items => rfl
  | scalar content => rfl

/-- A kext whose paths are those of its component already, or that has none, is left alone. -/
theorem updateKext_of_current {fields : Dictionary Node}
    (current : ∀ component,
      Component.firstOf? identity components (identity.ofDictionary fields) = some component →
        fields.textOrEmpty Field.executablePath = component.executablePath.getD "" ∧
        fields.textOrEmpty Field.plistPath = component.infoPath.getD "") (index : Nat) :
    updateKext identity (Wanted.ofComponents identity components) index (.dictionary fields) =
      (.dictionary fields, []) := by
  simp only [updateKext, Wanted.find?_ofComponents]
  cases found : Component.firstOf? identity components (identity.ofDictionary fields) with
  | none => rfl
  | some component =>
    obtain ⟨executable, plist⟩ := current component found
    simp only [updateField_of_same executable, updateField_of_same plist, List.append_nil]

/-- What holds of one item and what becomes of it holds of all. -/
theorem forall₂_updateKexts {relation : Node → Node → Prop} {wanted : Wanted} {items : List Node}
    (each : ∀ node ∈ items, ∀ index, relation node (updateKext identity wanted index node).1)
    (index : Nat) : List.Forall₂ relation items (updateKexts identity wanted index items).1 := by
  induction items generalizing index with
  | nil => exact .nil
  | cons node rest ih =>
    refine .cons (each node List.mem_cons_self index) ?_
    exact ih (fun other member => each other (List.mem_cons_of_mem node member)) (index + 1)

theorem updateKexts_of_current {items : List Node} {wanted : Wanted}
    (current : ∀ node ∈ items, ∀ index, updateKext identity wanted index node = (node, []))
    (index : Nat) : updateKexts identity wanted index items = (items, []) := by
  induction items generalizing index with
  | nil => rfl
  | cons node rest ih =>
    have head := current node List.mem_cons_self index
    have tail := ih fun other member => current other (List.mem_cons_of_mem node member)
    simp only [updateKexts, head, tail, List.append_nil]

end Kexts
end BootSnapshot.Merge
