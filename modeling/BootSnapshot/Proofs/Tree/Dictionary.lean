import BootSnapshot.Tree.Node

set_option autoImplicit false

namespace BootSnapshot.Dictionary

variable {α : Type}

theorem lookup_put_self (key : String) (value : α) (entries : List (String × α)) :
    lookup key (put key value entries) = some value := by
  induction entries with
  | nil => simp only [put, lookup, ↓reduceIte]
  | cons entry rest ih =>
    obtain ⟨name, old⟩ := entry
    by_cases same : name = key
    · simp only [put, same, ↓reduceIte, lookup]
    · simp only [put, same, ↓reduceIte, lookup, ih]

theorem lookup_put_ne {key other : String} (apart : other ≠ key) (value : α)
    (entries : List (String × α)) : lookup other (put key value entries) = lookup other entries := by
  induction entries with
  | nil => simp only [put, lookup, Ne.symm apart, ↓reduceIte]
  | cons entry rest ih =>
    obtain ⟨name, old⟩ := entry
    by_cases same : name = key
    · have differ : ¬ key = other := Ne.symm apart
      simp only [put, same, ↓reduceIte, lookup, differ]
    · simp only [put, same, ↓reduceIte, lookup, ih]

theorem put_lookup {key : String} {value : α} {entries : List (String × α)}
    (found : lookup key entries = some value) : put key value entries = entries := by
  induction entries with
  | nil => cases found
  | cons entry rest ih =>
    obtain ⟨name, old⟩ := entry
    by_cases same : name = key
    · simp only [lookup, same, ↓reduceIte, Option.some_inj] at found
      simp only [put, same, ↓reduceIte, found]
    · simp only [lookup, same, ↓reduceIte] at found
      simp only [put, same, ↓reduceIte, ih found]

theorem map_fst_put (key : String) (value : α) (entries : List (String × α)) :
    (put key value entries).map Prod.fst =
      entries.map Prod.fst ++ if (lookup key entries).isSome then [] else [key] := by
  induction entries with
  | nil => rfl
  | cons entry rest ih =>
    obtain ⟨name, old⟩ := entry
    by_cases same : name = key
    · simp only [put, same, ↓reduceIte, List.map_cons, lookup, Option.isSome_some, List.append_nil]
    · simp only [put, same, ↓reduceIte, List.map_cons, lookup, ih, List.cons_append]

theorem getElem?_put {key : String} (value : α) {entries : List (String × α)} {index : Nat}
    {entry : String × α} (found : entries[index]? = some entry) (apart : entry.1 ≠ key) :
    (put key value entries)[index]? = some entry := by
  induction entries generalizing index with
  | nil => cases found
  | cons head rest ih =>
    obtain ⟨name, old⟩ := head
    by_cases same : name = key
    · simp only [put, same, ↓reduceIte]
      cases index with
      | zero =>
        have first : (name, old) = entry := Option.some_inj.mp found
        exact absurd (first ▸ same) apart
      | succ index => exact found
    · simp only [put, same, ↓reduceIte]
      cases index with
      | zero => exact found
      | succ index => exact ih found

theorem filter_put (keeps : String → Bool) {key : String} (drops : keeps key = false) (value : α)
    (entries : List (String × α)) :
    (put key value entries).filter (fun entry => keeps entry.1) =
      entries.filter fun entry => keeps entry.1 := by
  induction entries with
  | nil => simp only [put, List.filter_cons, drops, Bool.false_eq_true, ↓reduceIte]
  | cons entry rest ih =>
    obtain ⟨name, old⟩ := entry
    by_cases same : name = key
    · simp only [put, same, ↓reduceIte, List.filter_cons, drops, Bool.false_eq_true]
    · simp only [put, same, ↓reduceIte, List.filter_cons, ih]

theorem lookup_filter (keeps : String → Bool) {key : String} (stays : keeps key = true)
    (entries : List (String × α)) :
    lookup key (entries.filter fun entry => keeps entry.1) = lookup key entries := by
  induction entries with
  | nil => rfl
  | cons entry rest ih =>
    obtain ⟨name, value⟩ := entry
    by_cases same : name = key
    · simp only [same, List.filter_cons, stays, ↓reduceIte, lookup]
    · cases here : keeps name with
      | true => simp only [List.filter_cons, here, ↓reduceIte, lookup, same, ih]
      | false => simp only [List.filter_cons, here, Bool.false_eq_true, ↓reduceIte, lookup, same, ih]

theorem put_filter (keeps : String → Bool) {key : String} (stays : keeps key = true) (value : α)
    (entries : List (String × α)) :
    put key value (entries.filter fun entry => keeps entry.1) =
      (put key value entries).filter fun entry => keeps entry.1 := by
  induction entries with
  | nil => simp only [List.filter_nil, put, List.filter_cons, stays, ↓reduceIte]
  | cons entry rest ih =>
    obtain ⟨name, old⟩ := entry
    by_cases same : name = key
    · simp only [same, List.filter_cons, stays, ↓reduceIte, put]
    · cases here : keeps name with
      | true => simp only [List.filter_cons, here, ↓reduceIte, put, same, ih]
      | false => simp only [List.filter_cons, here, Bool.false_eq_true, ↓reduceIte, put, same, ih]

def mapValues (change : String → α → α) (d : Dictionary α) : Dictionary α :=
  ⟨d.entries.map fun entry => (entry.1, change entry.1 entry.2)⟩

theorem get?_mapValues (change : String → α → α) (d : Dictionary α) (key : String) :
    (d.mapValues change).get? key = (d.get? key).map (change key) := by
  obtain ⟨entries⟩ := d
  change lookup key (entries.map _) = (lookup key entries).map (change key)
  induction entries with
  | nil => rfl
  | cons entry rest ih =>
    obtain ⟨name, value⟩ := entry
    by_cases same : name = key
    · subst same
      simp only [List.map_cons, lookup, ↓reduceIte, Option.map_some]
    · simp only [List.map_cons, lookup, same, ↓reduceIte, ih]

theorem insert_mapValues (change : String → α → α) (d : Dictionary α) (key : String) (value : α) :
    (d.insert key value).mapValues change = (d.mapValues change).insert key (change key value) := by
  obtain ⟨entries⟩ := d
  refine congrArg Dictionary.mk ?_
  change (put key value entries).map _ = put key (change key value) (entries.map _)
  induction entries with
  | nil => rfl
  | cons entry rest ih =>
    obtain ⟨name, old⟩ := entry
    by_cases same : name = key
    · subst same
      simp only [put, ↓reduceIte, List.map_cons]
    · simp only [put, same, ↓reduceIte, List.map_cons, ih]

@[simp] theorem get?_insert_self (d : Dictionary α) (key : String) (value : α) :
    (d.insert key value).get? key = some value := lookup_put_self key value d.entries

/-- A value put under a key is found nowhere else. -/
theorem get?_insert_ne {key other : String} (d : Dictionary α) (value : α) (apart : other ≠ key) :
    (d.insert key value).get? other = d.get? other := lookup_put_ne apart value d.entries

/-- Putting back what is there changes nothing. -/
theorem insert_get? {d : Dictionary α} {key : String} {value : α}
    (found : d.get? key = some value) : d.insert key value = d :=
  congrArg Dictionary.mk (put_lookup found)

theorem keys_insert (d : Dictionary α) (key : String) (value : α) :
    (d.insert key value).keys = d.keys ++ if d.contains key then [] else [key] :=
  map_fst_put key value d.entries

/-- Every entry under none of the given keys is where it was. -/
def KeptBut (changes : String → Prop) (before after : Dictionary α) : Prop :=
  ∀ (index : Nat) (key : String) (value : α), ¬ changes key →
    before.entries[index]? = some (key, value) → after.entries[index]? = some (key, value)

theorem KeptBut.refl (changes : String → Prop) (d : Dictionary α) : KeptBut changes d d :=
  fun _ _ _ _ found => found

theorem KeptBut.insert {changes : String → Prop} {before after : Dictionary α}
    (kept : KeptBut changes before after) {key : String} (changed : changes key) (value : α) :
    KeptBut changes before (after.insert key value) := by
  intro index other old stays found
  refine getElem?_put value (kept index other old stays found) fun same => stays ?_
  change other = key at same
  rwa [same]

section Texts

variable (d : Dictionary Node)

@[simp] theorem textOrEmpty_insert_self (key text : String) :
    (d.insert key (.ofText text)).textOrEmpty key = text := by
  simp only [textOrEmpty, text?, get?_insert_self, Option.bind_some, Node.ofText, Node.text?,
    Option.getD_some]

theorem text?_insert_ne {key other : String} (value : Node) (apart : other ≠ key) :
    (d.insert key value).text? other = d.text? other := by
  simp only [text?, get?_insert_ne d value apart]

theorem textOrEmpty_insert_ne {key other : String} (value : Node) (apart : other ≠ key) :
    (d.insert key value).textOrEmpty other = d.textOrEmpty other := by
  simp only [textOrEmpty, text?_insert_ne d value apart]

end Texts

end BootSnapshot.Dictionary

namespace BootSnapshot.Node

theorem eq_of_dictionary? {node : Node} {children : Dictionary Node}
    (found : node.dictionary? = some children) : node = .dictionary children := by
  cases node with
  | dictionary held => exact congrArg Node.dictionary (Option.some_inj.mp found)
  | _ => cases found

theorem eq_of_sequence? {node : Node} {items : List Node} (found : node.sequence? = some items) :
    node = .sequence items := by
  cases node with
  | sequence held => exact congrArg Node.sequence (Option.some_inj.mp found)
  | _ => cases found

end BootSnapshot.Node
