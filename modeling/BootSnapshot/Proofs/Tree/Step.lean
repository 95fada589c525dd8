import BootSnapshot.Proofs.Tree.Keys

set_option autoImplicit false

namespace BootSnapshot

def Segment.container : Segment → Kind
  | .key _ => .dictionary
  | .index _ => .array

namespace Dictionary

variable {α : Type}

theorem put_put (key : String) (first second : α) (entries : List (String × α)) :
    put key second (put key first entries) = put key second entries := by
  induction entries with
  | nil => simp only [put, ↓reduceIte]
  | cons entry rest ih =>
    obtain ⟨name, old⟩ := entry
    by_cases same : name = key
    · simp only [put, same, ↓reduceIte]
    · simp only [put, same, ↓reduceIte, ih]

/-- Of two values put under one key the second one counts. -/
theorem insert_insert (d : Dictionary α) (key : String) (first second : α) :
    (d.insert key first).insert key second = d.insert key second :=
  congrArg Dictionary.mk (put_put key first second d.entries)

theorem mem_put {key : String} {value : α} {entries : List (String × α)} {entry : String × α}
    (member : entry ∈ put key value entries) : entry ∈ entries ∨ entry.2 = value := by
  induction entries with
  | nil => exact Or.inr (congrArg Prod.snd (List.mem_singleton.mp member))
  | cons head rest ih =>
    obtain ⟨name, old⟩ := head
    unfold put at member
    split at member
    · rcases List.mem_cons.mp member with rfl | later
      · exact Or.inr rfl
      · exact Or.inl (List.mem_cons_of_mem _ later)
    · rcases List.mem_cons.mp member with rfl | later
      · exact Or.inl List.mem_cons_self
      · exact (ih later).imp_left (List.mem_cons_of_mem _)

/-- A key that is present keeps all keys in their places. -/
theorem keys_insert_of_contains {d : Dictionary α} {key : String} (present : d.contains key = true)
    (value : α) : (d.insert key value).keys = d.keys := by
  rw [keys_insert, if_pos present, List.append_nil]

theorem size_eq (d : Dictionary α) : d.size = d.keys.length := (List.length_map Prod.fst).symm

theorem mem_of_lookup {key : String} {value : α} {entries : List (String × α)}
    (found : lookup key entries = some value) : (key, value) ∈ entries := by
  induction entries with
  | nil => cases found
  | cons entry rest ih =>
    obtain ⟨name, old⟩ := entry
    unfold lookup at found
    split at found
    · rename_i same
      rw [same, Option.some_inj.mp found]
      exact List.mem_cons_self
    · exact List.mem_cons_of_mem _ (ih found)

end Dictionary

namespace Node

/-- What is said of a step that fails at the end of a path: the child is missing if the node takes
such steps, and otherwise the node is not of the kind that takes them. -/
def refusal (node : Node) (step : Segment) (path : Path) : TreeError :=
  if node.kind = step.container then .notFound path
  else .typeMismatch path step.container node.kind

def accepts : Node → Segment → Bool
  | .dictionary _, .key _ => true
  | .sequence _, .index _ => true
  | _, _ => false

/-- Nodes of one form: of one kind, with as many children, and with the same keys in one order. -/
structure SameForm (node other : Node) : Prop where
  kind : node.kind = other.kind
  count : node.childCount = other.childCount
  keys : node.dictionary?.map Dictionary.keys = other.dictionary?.map Dictionary.keys

theorem relocate_refusal (node : Node) (step : Segment) (path walked : Path) :
    (node.refusal step path).relocate walked = node.refusal step walked := by
  unfold refusal
  split <;> rfl

theorem below_refusal (node : Node) (step : Segment) (start path : Path) :
    (node.refusal step path).below start = node.refusal step (start ++ path) := by
  unfold refusal
  split <;> rfl

variable {node changed new : Node} {step : Segment}

theorem kind_scalar_ne_container (content : Scalar) (step : Segment) :
    (Node.scalar content).kind ≠ step.container := by
  cases content <;> cases step <;> exact Kind.noConfusion

theorem child_cases {next : Node} (found : node.child step = .ok next) :
    (∃ children name, node = .dictionary children ∧ step = .key name ∧
      children.get? name = some next) ∨
    ∃ items position, node = .sequence items ∧ step = .index position ∧
      items[position]? = some next := by
  unfold child at found
  split at found
  · rename_i children name
    split at found
    · rename_i value present
      exact Or.inl ⟨children, name, rfl, rfl, Except.ok.inj found ▸ present⟩
    · cases found
  · rename_i items position
    split at found
    · rename_i item inside
      exact Or.inr ⟨items, position, rfl, rfl, Except.ok.inj found ▸ inside⟩
    · cases found
  · cases found

/-- The node takes steps of its kind but has no such child, or it takes none of its kind. -/
theorem child_error {error : TreeError} (failed : node.child step = .error error) :
    error = node.refusal step [step] := by
  cases node with
  | dictionary children =>
    cases step with
    | key name =>
      unfold child at failed
      dsimp only at failed
      split at failed
      · cases failed
      · exact (Except.error.inj failed).symm
    | index position => exact (Except.error.inj failed).symm
  | sequence items =>
    cases step with
    | key name => exact (Except.error.inj failed).symm
    | index position =>
      unfold child at failed
      dsimp only at failed
      split at failed
      · cases failed
      · exact (Except.error.inj failed).symm
  | scalar content =>
    rw [refusal, if_neg (kind_scalar_ne_container content step)]
    cases step <;> exact (Except.error.inj failed).symm

theorem replaceChild_cases (replaced : node.replaceChild step new = .ok changed) :
    (∃ children name, node = .dictionary children ∧ step = .key name ∧
      children.contains name = true ∧ changed = .dictionary (children.insert name new)) ∨
    ∃ items position, node = .sequence items ∧ step = .index position ∧
      position < items.length ∧ changed = .sequence (items.set position new) := by
  unfold replaceChild at replaced
  split at replaced
  · rename_i children name
    split at replaced
    · rename_i present
      exact Or.inl ⟨children, name, rfl, rfl, present, (Except.ok.inj replaced).symm⟩
    · cases replaced
  · rename_i items position
    split at replaced
    · rename_i inside
      exact Or.inr ⟨items, position, rfl, rfl, inside, (Except.ok.inj replaced).symm⟩
    · cases replaced
  · cases replaced

/-- A child can be replaced by any node. -/
theorem exists_replaceChild {old : Node} (found : node.child step = .ok old) (new : Node) :
    ∃ changed, node.replaceChild step new = .ok changed := by
  obtain ⟨children, name, rfl, rfl, held⟩ | ⟨items, position, rfl, rfl, held⟩ := child_cases found
  · have present : children.contains name = true := Option.isSome_of_eq_some held
    exact ⟨_, if_pos present⟩
  · exact ⟨_, if_pos (List.getElem?_eq_some_iff.mp held).1⟩

theorem child_replaceChild_self (replaced : node.replaceChild step new = .ok changed) :
    changed.child step = .ok new := by
  obtain ⟨children, name, rfl, rfl, -, rfl⟩ | ⟨items, position, rfl, rfl, inside, rfl⟩ :=
    replaceChild_cases replaced
  · simp only [child, Dictionary.get?_insert_self]
  · simp only [child, List.getElem?_set_self inside]

/-- Other steps lead where they led before, or fail as they did before. -/
theorem child_replaceChild_ne (replaced : node.replaceChild step new = .ok changed)
    {other : Segment} (apart : other ≠ step) : changed.child other = node.child other := by
  obtain ⟨children, name, rfl, rfl, -, rfl⟩ | ⟨items, position, rfl, rfl, -, rfl⟩ :=
    replaceChild_cases replaced
  · cases other with
    | key another =>
      have differs : another ≠ name := fun same => apart (congrArg Segment.key same)
      simp only [child, Dictionary.get?_insert_ne children new differs]
    | index another => rfl
  · cases other with
    | key another => rfl
    | index another =>
      have differs : position ≠ another := fun same => apart (congrArg Segment.index same.symm)
      simp only [child, List.getElem?_set_ne differs]

theorem sameForm_replaceChild (replaced : node.replaceChild step new = .ok changed) :
    node.SameForm changed := by
  obtain ⟨children, name, rfl, rfl, present, rfl⟩ | ⟨items, position, rfl, rfl, -, rfl⟩ :=
    replaceChild_cases replaced
  · have keys := Dictionary.keys_insert_of_contains present new
    refine ⟨rfl, ?_, ?_⟩
    · show children.size = (children.insert name new).size
      rw [Dictionary.size_eq, Dictionary.size_eq, keys]
    · exact congrArg some keys.symm
  · exact ⟨rfl, List.length_set.symm, rfl⟩

theorem replaceChild_replaceChild (replaced : node.replaceChild step new = .ok changed)
    (newer : Node) : changed.replaceChild step newer = node.replaceChild step newer := by
  obtain ⟨children, name, rfl, rfl, present, rfl⟩ | ⟨items, position, rfl, rfl, inside, rfl⟩ :=
    replaceChild_cases replaced
  · have still : (children.insert name new).contains name = true := by
      rw [Dictionary.contains, Dictionary.get?_insert_self, Option.isSome_some]
    simp only [replaceChild, present, still, ↓reduceIte, Dictionary.insert_insert]
  · simp only [replaceChild, List.length_set, inside, ↓reduceIte, List.set_set]

theorem replaceChild_child {old : Node} (found : node.child step = .ok old) :
    node.replaceChild step old = .ok node := by
  obtain ⟨children, name, rfl, rfl, held⟩ | ⟨items, position, rfl, rfl, held⟩ := child_cases found
  · have present : children.contains name = true := Option.isSome_of_eq_some held
    simp only [replaceChild, present, ↓reduceIte, Dictionary.insert_get? held]
  · obtain ⟨inside, rfl⟩ := List.getElem?_eq_some_iff.mp held
    simp only [replaceChild, inside, ↓reduceIte, List.set_getElem_self]

theorem HasDistinctKeys.child {next : Node} (distinct : node.HasDistinctKeys)
    (found : node.child step = .ok next) : next.HasDistinctKeys := by
  obtain ⟨children, name, rfl, rfl, held⟩ | ⟨items, position, rfl, rfl, held⟩ := child_cases found
  · cases distinct with
    | dictionary _ below => exact below _ (Dictionary.mem_of_lookup held)
  · cases distinct with
    | sequence below => exact below _ (List.mem_of_getElem? held)

theorem HasDistinctKeys.replaceChild (distinct : node.HasDistinctKeys)
    (inner : new.HasDistinctKeys) (replaced : node.replaceChild step new = .ok changed) :
    changed.HasDistinctKeys := by
  obtain ⟨children, name, rfl, rfl, present, rfl⟩ | ⟨items, position, rfl, rfl, inside, rfl⟩ :=
    replaceChild_cases replaced
  · cases distinct with
    | dictionary distinct below =>
      refine .dictionary ?_ ?_
      · rwa [Dictionary.Distinct, Dictionary.keys_insert_of_contains present]
      · intro entry member
        rcases Dictionary.mem_put member with old | same
        · exact below entry old
        · rwa [same]
  · cases distinct with
    | sequence below =>
      refine .sequence fun item member => ?_
      rcases List.mem_or_eq_of_mem_set member with old | rfl
      · exact below item old
      · exact inner

end Node
end BootSnapshot
