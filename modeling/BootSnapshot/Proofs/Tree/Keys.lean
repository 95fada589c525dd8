import BootSnapshot.Proofs.Tree.Dictionary

set_option autoImplicit false

namespace BootSnapshot

namespace Dictionary

variable {α : Type}

/-- A key that is not there is put last. -/
theorem put_fresh {key : String} {entries : List (String × α)} (fresh : key ∉ entries.map Prod.fst)
    (value : α) : put key value entries = entries ++ [(key, value)] := by
  induction entries with
  | nil => rfl
  | cons entry rest ih =>
    obtain ⟨name, old⟩ := entry
    have apart : ¬ name = key := Ne.symm (List.ne_of_not_mem_cons fresh)
    have freshRest : key ∉ rest.map Prod.fst := List.not_mem_of_not_mem_cons fresh
    simp only [put, apart, ↓reduceIte, ih freshRest, List.cons_append]

instance (d : Dictionary α) : Decidable d.Distinct := inferInstanceAs (Decidable d.keys.Nodup)

end Dictionary

namespace Node

/-- No dictionary in the tree has a key twice. -/
inductive HasDistinctKeys : Node → Prop
  | dictionary {children : Dictionary Node} (distinct : children.Distinct)
      (below : ∀ entry ∈ children.entries, HasDistinctKeys entry.2) :
      HasDistinctKeys (.dictionary children)
  | sequence {items : List Node} (below : ∀ item ∈ items, HasDistinctKeys item) :
      HasDistinctKeys (.sequence items)
  | scalar (content : Scalar) : HasDistinctKeys (.scalar content)

mutual

def mapScalars (change : Scalar → Scalar) : Node → Node
  | .dictionary ⟨entries⟩ => .dictionary ⟨mapEntries change entries⟩
  | .sequence items => .sequence (mapItems change items)
  | .scalar content => .scalar (change content)

def mapEntries (change : Scalar → Scalar) : List (String × Node) → List (String × Node)
  | [] => []
  | (key, child) :: rest => (key, child.mapScalars change) :: mapEntries change rest

def mapItems (change : Scalar → Scalar) : List Node → List Node
  | [] => []
  | item :: rest => item.mapScalars change :: mapItems change rest

end

mutual

def scalars : Node → List Scalar
  | .dictionary ⟨entries⟩ => scalarsOfEntries entries
  | .sequence items => scalarsOfItems items
  | .scalar content => [content]

def scalarsOfEntries : List (String × Node) → List Scalar
  | [] => []
  | (_, child) :: rest => child.scalars ++ scalarsOfEntries rest

def scalarsOfItems : List Node → List Scalar
  | [] => []
  | item :: rest => item.scalars ++ scalarsOfItems rest

end

section Unchanged

variable {change : Scalar → Scalar}

mutual

theorem mapScalars_eq_self : ∀ node : Node, (∀ content ∈ node.scalars, change content = content) →
    node.mapScalars change = node
  | .dictionary ⟨entries⟩, same => by rw [mapScalars, mapEntries_eq_self entries same]
  | .sequence items, same => by rw [mapScalars, mapItems_eq_self items same]
  | .scalar content, same => by rw [mapScalars, same content (List.mem_singleton_self content)]

theorem mapEntries_eq_self : ∀ entries : List (String × Node),
    (∀ content ∈ scalarsOfEntries entries, change content = content) →
    mapEntries change entries = entries
  | [], _ => rfl
  | (key, child) :: rest, same => by
    obtain ⟨here, others⟩ := List.forall_mem_append.mp same
    rw [mapEntries, mapScalars_eq_self child here, mapEntries_eq_self rest others]

theorem mapItems_eq_self : ∀ items : List Node,
    (∀ content ∈ scalarsOfItems items, change content = content) → mapItems change items = items
  | [], _ => rfl
  | item :: rest, same => by
    obtain ⟨here, others⟩ := List.forall_mem_append.mp same
    rw [mapItems, mapScalars_eq_self item here, mapItems_eq_self rest others]

end

end Unchanged

theorem mapEntries_eq (change : Scalar → Scalar) (entries : List (String × Node)) :
    mapEntries change entries = entries.map fun entry => (entry.1, entry.2.mapScalars change) := by
  induction entries with
  | nil => rfl
  | cons entry rest ih => rw [mapEntries, ih, List.map_cons]

theorem mapItems_eq (change : Scalar → Scalar) (items : List Node) :
    mapItems change items = items.map (mapScalars change) := by
  induction items with
  | nil => rfl
  | cons item rest ih => rw [mapItems, ih, List.map_cons]

theorem HasDistinctKeys.mapScalars {node : Node} (distinct : node.HasDistinctKeys)
    (change : Scalar → Scalar) : (node.mapScalars change).HasDistinctKeys := by
  induction distinct with
  | @dictionary children distinct below ih =>
    obtain ⟨entries⟩ := children
    refine .dictionary ?_ ?_
    · simpa only [Dictionary.Distinct, Dictionary.keys, mapEntries_eq, List.map_map,
        Function.comp_def] using distinct
    · intro entry member
      rw [mapEntries_eq] at member
      obtain ⟨before, held, rfl⟩ := List.mem_map.mp member
      exact ih before held
  | @sequence items below ih =>
    refine .sequence ?_
    intro item member
    rw [mapItems_eq] at member
    obtain ⟨before, held, rfl⟩ := List.mem_map.mp member
    exact ih before held
  | scalar content => exact .scalar (change content)

end Node
end BootSnapshot
