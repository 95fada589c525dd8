import BootSnapshot.PropertyList.Event
import BootSnapshot.Proofs.PropertyList.Value
import BootSnapshot.Proofs.Tree.Keys

set_option autoImplicit false

namespace BootSnapshot.PropertyList

namespace Event

mutual

def ofNode : Node → List Event
  | .dictionary ⟨entries⟩ => .openDictionary :: (ofEntries entries ++ [.close])
  | .sequence items => .openArray :: (ofItems items ++ [.close])
  | .scalar content => [.leaf (Value.ofNode (.scalar content))]

def ofEntries : List (String × Node) → List Event
  | [] => []
  | (key, child) :: rest => .leaf (.string key) :: (ofNode child ++ ofEntries rest)

def ofItems : List Node → List Event
  | [] => []
  | item :: rest => ofNode item ++ ofItems rest

end

end Event

namespace Building

theorem run?_append (building : Building) (front back : List Event) :
    building.run? (front ++ back) = (building.run? front).bind fun next => next.run? back := by
  induction front generalizing building with
  | nil => rfl
  | cons event rest ih =>
    simp only [List.cons_append, run?]
    cases building.step? event with
    | none => rfl
    | some next => exact ih next

theorem run?_singleton (building : Building) (event : Event) :
    building.run? [event] = building.step? event := by
  exact Option.bind_fun_some (building.step? event)

/-- The events build a value wherever it may be put. -/
def Builds (events : List Event) (value : Value) : Prop :=
  ∀ building : Building, building.run? events = building.add? value

theorem builds_leaf (value : Value) : Builds [.leaf value] value := by
  intro building
  rw [run?_singleton]
  cases building with
  | complete whole => rfl
  | within frames =>
    cases frames with
    | nil => rfl
    | cons frame outer => rfl

variable (outer : List Frame)

theorem run?_items (items : List Node) (before : List Value)
    (builds : ∀ item ∈ items, Builds (Event.ofNode item) (Value.ofNode item)) :
    (within (.array before :: outer)).run? (Event.ofItems items) =
      some (within (.array ((Value.ofItems items).reverse ++ before) :: outer)) := by
  induction items generalizing before with
  | nil => rfl
  | cons item rest ih =>
    obtain ⟨here, others⟩ := List.forall_mem_cons.mp builds
    have added : (within (.array before :: outer)).add? (Value.ofNode item) =
        some (within (.array (Value.ofNode item :: before) :: outer)) := rfl
    rw [Event.ofItems, run?_append, here, added, Option.bind_some, ih _ others, Value.ofItems,
      List.reverse_cons, List.append_assoc, List.singleton_append]

theorem run?_entries (entries : List (String × Node)) (before : List (String × Value))
    (distinct : (before.map Prod.fst ++ entries.map Prod.fst).Nodup)
    (builds : ∀ entry ∈ entries, Builds (Event.ofNode entry.2) (Value.ofNode entry.2)) :
    (within (.dictionary ⟨before⟩ none :: outer)).run? (Event.ofEntries entries) =
      some (within (.dictionary ⟨before ++ Value.ofEntries entries⟩ none :: outer)) := by
  induction entries generalizing before with
  | nil => rw [Value.ofEntries, List.append_nil]; rfl
  | cons entry rest ih =>
    obtain ⟨key, child⟩ := entry
    obtain ⟨here, others⟩ := List.forall_mem_cons.mp builds
    have fresh : key ∉ before.map Prod.fst := by
      intro member
      exact (List.nodup_append.mp distinct).2.2 key member key List.mem_cons_self rfl
    have added : (within (.dictionary ⟨before⟩ (some key) :: outer)).add? (Value.ofNode child) =
        some (within (.dictionary ⟨before ++ [(key, Value.ofNode child)]⟩ none :: outer)) := by
      have last := Dictionary.put_fresh fresh (Value.ofNode child)
      simp only [add?, Frame.add?, Dictionary.insert, last, Option.map_some]
    have distinctRest : ((before ++ [(key, Value.ofNode child)]).map Prod.fst ++
        rest.map Prod.fst).Nodup := by
      simpa only [List.map_append, List.map_cons, List.map_nil, List.append_assoc,
        List.singleton_append] using distinct
    have keyed : (within (.dictionary ⟨before⟩ none :: outer)).step? (.leaf (.string key)) =
        some (within (.dictionary ⟨before⟩ (some key) :: outer)) := rfl
    rw [Event.ofEntries, run?, keyed, Option.bind_some, run?_append, here, added, Option.bind_some,
      ih _ distinctRest others, Value.ofEntries, List.append_assoc, List.singleton_append]

/-- Every tree with distinct keys is built by its events. -/
theorem builds_ofNode {node : Node} (distinct : node.HasDistinctKeys) :
    Builds (Event.ofNode node) (Value.ofNode node) := by
  induction distinct with
  | @dictionary children distinct below ih =>
    obtain ⟨entries⟩ := children
    intro building
    cases building with
    | complete whole => rfl
    | within frames =>
      have opened : (within frames).step? .openDictionary =
          some (within (.dictionary ⟨[]⟩ none :: frames)) := by
        cases frames <;> rfl
      have inside := run?_entries frames entries [] distinct ih
      rw [Event.ofNode, run?, opened, Option.bind_some, run?_append, inside, Option.bind_some,
        run?_singleton, List.nil_append, Value.ofNode]
      rfl
  | @sequence items below ih =>
    intro building
    cases building with
    | complete whole => rfl
    | within frames =>
      have opened : (within frames).step? .openArray = some (within (.array [] :: frames)) := by
        cases frames <;> rfl
      have inside := run?_items frames items [] ih
      have closed : (Frame.array (Value.ofItems items).reverse).close? =
          some (.array (Value.ofItems items)) := by
        rw [Frame.close?, List.reverse_reverse]
      rw [Event.ofNode, run?, opened, Option.bind_some, run?_append, inside, Option.bind_some,
        run?_singleton, List.append_nil, Value.ofNode, step?, closed, Option.bind_some]
  | scalar content => exact builds_leaf _

end Building

theorem Value.ofEvents?_ofNode {node : Node} (distinct : node.HasDistinctKeys) :
    Value.ofEvents? (Event.ofNode node) = some (Value.ofNode node) := by
  have built : Building.start.run? (Event.ofNode node) = some (.complete (Value.ofNode node)) :=
    Building.builds_ofNode distinct Building.start
  rw [Value.ofEvents?, built]

end BootSnapshot.PropertyList
