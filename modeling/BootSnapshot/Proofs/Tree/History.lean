import BootSnapshot.Proofs.Tree.Entries

set_option autoImplicit false

namespace BootSnapshot.Dictionary

variable {α : Type}

/-- What a dictionary can be asked to do. -/
inductive Edit (α : Type) where
  | insert (key : String) (value : α)
  | insertAt (position : Nat) (key : String) (value : α)
  | remove (key : String)

/-- What an edit that is carried out leaves under a key; nothing if it is about another key. -/
def Edit.write? (key : String) : Edit α → Option (Option α)
  | .insert name value => if name = key then some (some value) else none
  | .insertAt _ name value => if name = key then some (some value) else none
  | .remove name => if name = key then some none else none

/-- The dictionary after an edit, and the value that the key had before or the reason why the edit
is refused. -/
def perform (d : Dictionary α) : Edit α → Dictionary α × Except TreeError (Option α)
  | .insert key value => (d.insert key value, .ok (d.get? key))
  | .insertAt position key value =>
    match d.insertAt position key value with
    | .ok changed => (changed, .ok none)
    | .error error => (d, .error error)
  | .remove key => (d.remove key, .ok (d.get? key))

def position? (d : Dictionary α) (key : String) : Option Nat :=
  d.entries.findIdx? fun entry => entry.1 = key

/-- An edit of a dictionary in place, which may fail after it has begun. -/
abbrev InPlace (α β : Type) := ExceptT TreeError (StateM (Dictionary α)) β

def InPlace.on {β : Type} (edit : InPlace α β) (d : Dictionary α) :
    Except TreeError β × Dictionary α :=
  edit.run.run d

/-- Puts a value under the key that stands at a position, or a new key behind the others. -/
def putAt (key : String) (value : α) : Option Nat → InPlace α (Option α)
  | some position => do
    let d ← get
    set (⟨d.entries.modify position fun entry => (entry.1, value)⟩ : Dictionary α)
    return d.entries[position]?.map Prod.snd
  | none => do
    let d ← get
    set (⟨d.entries ++ [(key, value)]⟩ : Dictionary α)
    return none

def takeAt : Option Nat → InPlace α (Option α)
  | some position => do
    let d ← get
    set (⟨d.entries.eraseIdx position⟩ : Dictionary α)
    return d.entries[position]?.map Prod.snd
  | none => return none

def performInPlace : Edit α → InPlace α (Option α)
  | .insert key value => do
    let d ← get
    putAt key value (d.position? key)
  | .insertAt position key value => do
    let d ← get
    if d.contains key then
      throw (.duplicateKey key)
    if d.size < position then
      throw (.indexOutOfBounds position d.size)
    set (⟨d.entries.insertIdx position (key, value)⟩ : Dictionary α)
    return none
  | .remove key => do
    let d ← get
    takeAt (d.position? key)

def after (d : Dictionary α) (edits : List (Edit α)) : Dictionary α :=
  edits.foldl (fun d edit => (d.perform edit).1) d

/-- Edits with what came of each. -/
def history (d : Dictionary α) : List (Edit α) → List (Edit α × Except TreeError (Option α))
  | [] => []
  | edit :: rest => (edit, (d.perform edit).2) :: (d.perform edit).1.history rest

/-- What the last edit about a key that was carried out has left there; `initial` if there is none. -/
def latest (key : String) (initial : Option α)
    (history : List (Edit α × Except TreeError (Option α))) : Option α :=
  (history.reverse.findSome? fun (edit, outcome) =>
    if outcome.isOk then edit.write? key else none).getD initial

def StandsBefore (d : Dictionary α) (one other : String) : Prop := [one, other].Sublist d.keys

/-- The ways in which a dictionary takes every edit. -/
structure IsOrderedMap (d : Dictionary α) : Prop where
  distinct : d.Distinct
  /-- A new key comes last. -/
  appended : ∀ key value, key ∉ d.keys →
    d.perform (.insert key value) = (⟨d.entries ++ [(key, value)]⟩, .ok none)
  /-- A key that is present keeps its position and gives back its old value. -/
  replaced : ∀ position key old value, d.entries[position]? = some (key, old) →
    d.perform (.insert key value) = (⟨d.entries.set position (key, value)⟩, .ok (some old))
  /-- A key that is present is refused at any position. -/
  duplicate : ∀ position key value, key ∈ d.keys →
    d.perform (.insertAt position key value) = (d, .error (.duplicateKey key))
  /-- A new key is refused behind the end. -/
  outOfBounds : ∀ position key value, key ∉ d.keys → d.size < position →
    d.perform (.insertAt position key value) = (d, .error (.indexOutOfBounds position d.size))
  /-- A new key comes to the position, and the keys from there on move up. -/
  placed : ∀ position key value, key ∉ d.keys → position ≤ d.size →
    d.perform (.insertAt position key value) =
      (⟨d.entries.insertIdx position (key, value)⟩, .ok none)
  /-- A key that is taken out gives back its value. -/
  removed : ∀ position key old, d.entries[position]? = some (key, old) →
    d.perform (.remove key) = (⟨d.entries.eraseIdx position⟩, .ok (some old))
  absent : ∀ key, key ∉ d.keys → d.perform (.remove key) = (d, .ok none)

theorem get?_eq_none_iff {d : Dictionary α} {key : String} : d.get? key = none ↔ key ∉ d.keys :=
  lookup_eq_none_iff

theorem contains_iff {d : Dictionary α} {key : String} : d.contains key = true ↔ key ∈ d.keys := by
  unfold contains
  rw [Option.isSome_iff_ne_none, ne_eq, get?_eq_none_iff, not_not]

variable {d : Dictionary α}

theorem perform_insertAt_present {key : String} (present : key ∈ d.keys) (position : Nat)
    (value : α) :
    d.perform (.insertAt position key value) = (d, .error (.duplicateKey key)) := by
  have held := contains_iff.mpr present
  simp [perform, insertAt, held]

theorem perform_insertAt_behind {key : String} (fresh : key ∉ d.keys) {position : Nat}
    (behind : d.size < position) (value : α) :
    d.perform (.insertAt position key value) =
      (d, .error (.indexOutOfBounds position d.size)) := by
  have missing : ¬ d.contains key = true := fun held => fresh (contains_iff.mp held)
  simp [perform, insertAt, missing, behind]

theorem perform_insertAt_fresh {key : String} (fresh : key ∉ d.keys) {position : Nat}
    (inside : position ≤ d.size) (value : α) :
    d.perform (.insertAt position key value) =
      (⟨d.entries.insertIdx position (key, value)⟩, .ok none) := by
  have missing : ¬ d.contains key = true := fun held => fresh (contains_iff.mp held)
  have within : ¬ d.size < position := by omega
  simp [perform, insertAt, missing, within, take_append_cons_drop inside]

/-- An insertion at a position is refused in one of two ways, or it takes the key in. -/
theorem insertAt_cases (d : Dictionary α) (position : Nat) (key : String) (value : α) :
    (∃ error, d.perform (.insertAt position key value) = (d, .error error)) ∨
      key ∉ d.keys ∧ d.perform (.insertAt position key value) =
        (⟨d.entries.insertIdx position (key, value)⟩, .ok none) ∧ position ≤ d.size := by
  by_cases present : key ∈ d.keys
  · exact Or.inl ⟨_, perform_insertAt_present present position value⟩
  · by_cases behind : d.size < position
    · exact Or.inl ⟨_, perform_insertAt_behind present behind value⟩
    · have inside : position ≤ d.size := by omega
      exact Or.inr ⟨present, perform_insertAt_fresh present inside value, inside⟩

theorem keys_insertIdx (d : Dictionary α) (position : Nat) (entry : String × α) :
    (⟨d.entries.insertIdx position entry⟩ : Dictionary α).keys =
      d.keys.insertIdx position entry.1 :=
  List.map_insertIdx Prod.fst d.entries position entry

theorem keys_remove (d : Dictionary α) (key : String) : (d.remove key).keys = d.keys.erase key :=
  map_fst_drop key d.entries

theorem distinct_perform (distinct : d.Distinct) (edit : Edit α) : (d.perform edit).1.Distinct := by
  cases edit with
  | insert key value =>
    show (d.insert key value).keys.Nodup
    rw [keys_insert]
    split
    · rwa [List.append_nil]
    · rename_i missing
      rw [List.nodup_append_comm]
      exact List.nodup_cons.mpr ⟨fun present => missing (contains_iff.mpr present), distinct⟩
  | insertAt position key value =>
    rcases insertAt_cases d position key value with ⟨error, refused⟩ | ⟨fresh, taken, inside⟩
    · rwa [refused]
    · rw [taken, Distinct, keys_insertIdx]
      have within : position ≤ d.keys.length := by rwa [← size_eq]
      rw [← take_append_cons_drop within, List.nodup_middle, List.take_append_drop]
      exact List.nodup_cons.mpr ⟨fresh, distinct⟩
  | remove key =>
    show (d.remove key).keys.Nodup
    rw [keys_remove]
    exact distinct.erase key

/-- Keys that an edit does not take out stay in their order. -/
theorem sublist_perform {keys : List String} (ordered : keys.Sublist d.keys) {edit : Edit α}
    (stay : ∀ key ∈ keys, edit ≠ .remove key) : keys.Sublist (d.perform edit).1.keys := by
  cases edit with
  | insert key value =>
    show keys.Sublist (d.insert key value).keys
    rw [keys_insert]
    exact ordered.trans (List.sublist_append_left _ _)
  | insertAt position key value =>
    rcases insertAt_cases d position key value with ⟨error, refused⟩ | ⟨-, taken, -⟩
    · rwa [refused]
    · rw [taken, keys_insertIdx]
      exact ordered.trans (List.sublist_insertIdx _ _ _)
  | remove key =>
    show keys.Sublist (d.remove key).keys
    have apart : key ∉ keys := fun member => stay key member rfl
    rw [keys_remove, ← List.erase_of_not_mem apart]
    exact ordered.erase key

/-- An edit that is carried out writes under its key, and nowhere else. -/
theorem get?_perform (distinct : d.Distinct) (edit : Edit α) (key : String) :
    (d.perform edit).1.get? key =
      (if (d.perform edit).2.isOk then edit.write? key else none).getD (d.get? key) := by
  cases edit with
  | insert name value =>
    show (d.insert name value).get? key = (Edit.write? key (.insert name value)).getD (d.get? key)
    by_cases same : name = key
    · simp [Edit.write?, same]
    · simp [Edit.write?, same, get?_insert_ne d value (Ne.symm same)]
  | insertAt position name value =>
    rcases insertAt_cases d position name value with ⟨error, refused⟩ | ⟨fresh, taken, inside⟩
    · rw [refused]
      rfl
    · rw [taken]
      show lookup key (d.entries.insertIdx position (name, value)) =
        (Edit.write? key (.insertAt position name value)).getD (d.get? key)
      rw [lookup_insertIdx fresh inside, Edit.write?]
      split <;> rfl
  | remove name =>
    show lookup key (drop name d.entries) = (Edit.write? key (.remove name)).getD (d.get? key)
    by_cases same : name = key
    · simp [Edit.write?, same, lookup_drop_self distinct]
    · simp [Edit.write?, same, lookup_drop_ne (Ne.symm same), get?]

theorem isOrderedMap (distinct : d.Distinct) : d.IsOrderedMap where
  distinct := distinct
  appended key value fresh := by
    have missing := get?_eq_none_iff.mpr fresh
    simp only [perform, insert, put_fresh fresh, missing]
  replaced position key old value found := by
    have held : d.get? key = some old := lookup_at distinct found
    simp only [perform, insert, put_at distinct found, held]
  duplicate position key value present := perform_insertAt_present present position value
  outOfBounds position key value fresh behind := perform_insertAt_behind fresh behind value
  placed position key value fresh inside := perform_insertAt_fresh fresh inside value
  removed position key old found := by
    have held : d.get? key = some old := lookup_at distinct found
    simp only [perform, remove, drop_at distinct found, held]
  absent key missing := by
    simp only [perform, remove, drop_of_absent missing, get?_eq_none_iff.mpr missing]

theorem findIdx?_of_absent {key : String} {front : List (String × α)}
    (absent : key ∉ front.map Prod.fst) :
    front.findIdx? (fun entry => entry.1 = key) = none := by
  refine List.findIdx?_eq_none_iff.mpr fun entry member => decide_eq_false fun same => absent ?_
  exact same ▸ List.mem_map_of_mem member

/-- A key is absent, or its first entry parts the entries before it from those behind it. -/
theorem position?_cases (d : Dictionary α) (key : String) :
    d.position? key = none ∧ key ∉ d.keys ∨
      ∃ front old back, d.position? key = some front.length ∧
        d = ⟨front ++ (key, old) :: back⟩ ∧ key ∉ front.map Prod.fst := by
  obtain ⟨entries⟩ := d
  by_cases present : key ∈ entries.map Prod.fst
  · right
    obtain ⟨before, behind, split, first⟩ := List.eq_append_cons_of_mem present
    obtain ⟨front, others, rfl, rfl, tail⟩ := List.map_eq_append_iff.mp split
    obtain ⟨⟨name, old⟩, back, rfl, rfl, rfl⟩ := List.map_eq_cons_iff.mp tail
    refine ⟨front, old, back, ?_, rfl, first⟩
    simp [position?, List.findIdx?_append, findIdx?_of_absent first, List.findIdx?_cons]
  · exact Or.inl ⟨findIdx?_of_absent present, present⟩

/-- In place an edit gives back the same and leaves the same, whether it is refused or not. -/
theorem performInPlace_on (d : Dictionary α) (edit : Edit α) :
    (performInPlace edit).on d = ((d.perform edit).2, (d.perform edit).1) := by
  cases edit with
  | insert key value =>
    show (putAt key value (d.position? key)).on d = (.ok (d.get? key), d.insert key value)
    rcases position?_cases d key with ⟨missing, absent⟩ | ⟨front, old, back, found, rfl, absent⟩
    · rw [missing, get?_eq_none_iff.mpr absent, insert, put_fresh absent]
      rfl
    · rw [found, get?, insert, put_behind absent, lookup_behind absent]
      show (Except.ok ((front ++ (key, old) :: back)[front.length]?.map Prod.snd),
        Dictionary.mk ((front ++ (key, old) :: back).modify front.length _)) = _
      simp [lookup, put, List.modify_eq_set_getElem?]
  | insertAt position key value =>
    show InPlace.on (ite (d.contains key) _ _) d = _
    by_cases present : d.contains key
    · rw [if_pos present, perform_insertAt_present (contains_iff.mp present)]
      rfl
    rw [if_neg present]
    show InPlace.on (ite (d.size < position) _ _) d = _
    have fresh : key ∉ d.keys := fun held => present (contains_iff.mpr held)
    by_cases behind : d.size < position
    · rw [if_pos behind, perform_insertAt_behind fresh behind]
      rfl
    · rw [if_neg behind, perform_insertAt_fresh fresh (Nat.le_of_not_lt behind)]
      rfl
  | remove key =>
    show (takeAt (d.position? key)).on d = (.ok (d.get? key), d.remove key)
    rcases position?_cases d key with ⟨missing, absent⟩ | ⟨front, old, back, found, rfl, absent⟩
    · rw [missing, get?_eq_none_iff.mpr absent, remove, drop_of_absent absent]
      rfl
    · rw [found, get?, remove, drop_behind absent, lookup_behind absent]
      show (Except.ok ((front ++ (key, old) :: back)[front.length]?.map Prod.snd),
        Dictionary.mk ((front ++ (key, old) :: back).eraseIdx front.length)) = _
      simp [lookup, drop, List.eraseIdx_append_of_length_le]

@[simp] theorem after_cons (d : Dictionary α) (edit : Edit α) (rest : List (Edit α)) :
    d.after (edit :: rest) = (d.perform edit).1.after rest := rfl

theorem distinct_after (distinct : d.Distinct) (edits : List (Edit α)) :
    (d.after edits).Distinct := by
  induction edits generalizing d with
  | nil => exact distinct
  | cons edit rest ih => exact ih (distinct_perform distinct edit)

theorem sublist_after {keys : List String} (ordered : keys.Sublist d.keys) {edits : List (Edit α)}
    (stay : ∀ key ∈ keys, .remove key ∉ edits) : keys.Sublist (d.after edits).keys := by
  induction edits generalizing d with
  | nil => exact ordered
  | cons edit rest ih =>
    rw [after_cons]
    apply ih
    · apply sublist_perform ordered
      intro key member same
      exact stay key member (same ▸ List.mem_cons_self)
    · intro key member later
      exact stay key member (List.mem_cons_of_mem edit later)

theorem latest_cons (key : String) (initial : Option α) (edit : Edit α)
    (outcome : Except TreeError (Option α)) (rest : List (Edit α × Except TreeError (Option α))) :
    latest key initial ((edit, outcome) :: rest) =
      latest key ((if outcome.isOk then edit.write? key else none).getD initial) rest := by
  simp only [latest, List.reverse_cons, List.findSome?_append, List.findSome?_singleton,
    Option.getD_or]

/-- A key leads to what the last edit about it has left. -/
theorem get?_after (distinct : d.Distinct) (edits : List (Edit α)) (key : String) :
    (d.after edits).get? key = latest key (d.get? key) (d.history edits) := by
  induction edits generalizing d with
  | nil => rfl
  | cons edit rest ih =>
    rw [after_cons, ih (distinct_perform distinct edit), get?_perform distinct edit, history,
      latest_cons]

/-- Edits about other keys leave a key as it is. -/
theorem get?_after_of_untouched (distinct : d.Distinct) {edits : List (Edit α)} {key : String}
    (untouched : ∀ edit ∈ edits, edit.write? key = none) : (d.after edits).get? key = d.get? key := by
  induction edits generalizing d with
  | nil => rfl
  | cons edit rest ih =>
    have others : ∀ other ∈ rest, other.write? key = none :=
      fun other member => untouched other (List.mem_cons_of_mem edit member)
    have here := untouched edit List.mem_cons_self
    rw [after_cons, ih (distinct_perform distinct edit) others, get?_perform distinct edit, here,
      ite_self, Option.getD_none]

theorem ordered_or_ordered {one other : String} {keys : List String} (apart : one ≠ other)
    (first : one ∈ keys) (second : other ∈ keys) :
    [one, other].Sublist keys ∨ [other, one].Sublist keys := by
  obtain ⟨front, back, rfl⟩ := List.append_of_mem first
  rcases List.mem_append.mp second with before | behind
  · have pair := (List.singleton_sublist.mpr before).append
      (List.singleton_sublist.mpr (List.mem_cons_self : one ∈ one :: back))
    exact Or.inr pair
  · rcases List.mem_cons.mp behind with same | later
    · exact absurd same.symm apart
    · have pair := (List.singleton_sublist.mpr later).cons_cons one
      exact Or.inl (pair.trans (List.sublist_append_right _ _))

theorem not_ordered_both {one other : String} {keys : List String} (distinct : keys.Nodup)
    (forward : [one, other].Sublist keys) : ¬ [other, one].Sublist keys := by
  intro backward
  induction keys with
  | nil => cases forward
  | cons key rest ih =>
    obtain ⟨absent, others⟩ := List.nodup_cons.mp distinct
    cases forward with
    | cons _ forward =>
      cases backward with
      | cons _ backward => exact ih others forward backward
      | cons_cons _ backward => exact absent (forward.subset (by simp))
    | cons_cons _ forward =>
      cases backward with
      | cons _ backward => exact absent (backward.subset (by simp))
      | cons_cons _ backward => exact absent (forward.subset (by simp))

theorem standsBefore_after_iff (distinct : d.Distinct) {edits : List (Edit α)} {one other : String}
    (first : one ∈ d.keys) (second : other ∈ d.keys) (stays : .remove one ∉ edits)
    (otherStays : .remove other ∉ edits) :
    (d.after edits).StandsBefore one other ↔ d.StandsBefore one other := by
  have stay : ∀ key ∈ [one, other], Edit.remove key ∉ edits := by
    intro key member
    rcases List.mem_pair.mp member with rfl | rfl
    · exact stays
    · exact otherStays
  refine ⟨fun later => ?_, fun before => sublist_after before stay⟩
  have apart : one ≠ other := by
    rintro rfl
    exact not_ordered_both (distinct_after distinct edits) later later
  refine (ordered_or_ordered apart first second).resolve_right fun backward => ?_
  have stayed : [other, one].Sublist (d.after edits).keys :=
    sublist_after backward fun key member => stay key (by simpa [or_comm] using member)
  exact not_ordered_both (distinct_after distinct edits) later stayed

theorem ofPairs_eq (pairs : List (String × α)) :
    ofPairs pairs = empty.after (pairs.map fun pair => .insert pair.1 pair.2) := by
  unfold ofPairs after
  rw [List.foldl_map]
  rfl

theorem distinct_ofPairs (pairs : List (String × α)) : (ofPairs pairs).Distinct := by
  have none : (empty : Dictionary α).Distinct := List.nodup_nil
  rw [ofPairs_eq]
  exact distinct_after none _

theorem get?_ofPairs (pairs : List (String × α)) (key : String) :
    (ofPairs pairs).get? key = lookup key pairs.reverse := by
  have all (d : Dictionary α) :
      (pairs.foldl (fun d pair => d.insert pair.1 pair.2) d).get? key =
        (lookup key pairs.reverse).or (d.get? key) := by
    induction pairs generalizing d with
    | nil => rfl
    | cons pair rest ih =>
      rw [List.foldl_cons, ih, List.reverse_cons, lookup_append, Option.or_assoc]
      congr 1
      by_cases same : pair.1 = key
      · simp [lookup, same]
      · simp [lookup, same, get?_insert_ne d pair.2 (Ne.symm same)]
  rw [ofPairs, all empty]
  exact Option.or_none

theorem insertChild_eq (d : Dictionary Node) (key : String) (value : Node) :
    (Node.dictionary d).insertChild (.key key) value =
      (d.perform (.insert key value)).2.map (.dictionary (d.perform (.insert key value)).1, ·) := rfl

theorem removeChild_eq_ok_iff {d changed : Dictionary Node} {key : String} {old : Node} :
    (Node.dictionary d).removeChild (.key key) = .ok (.dictionary changed, old) ↔
      d.perform (.remove key) = (changed, .ok (some old)) := by
  simp only [Node.removeChild, perform]
  cases d.get? key with
  | none => simp
  | some value => simp

/-- After any edits a dictionary that was collected from pairs is an ordered map: no key occurs
twice, and every edit is taken as an ordered map takes it, also where the dictionary is a node and
the edit is about one of its children. A key leads to the value that was put under it most recently
and not taken out since. Keys that are not taken out stay in their order. In place an edit comes to
the same, and one that is refused is refused before it has changed anything. -/
theorem edited_isOrderedMap (pairs : List (String × Node)) (edits : List (Edit Node)) :
    ((ofPairs pairs).after edits).IsOrderedMap ∧
    (∀ key, ((ofPairs pairs).after edits).get? key =
      latest key (lookup key pairs.reverse) ((ofPairs pairs).history edits)) ∧
    (∀ later one other, one ∈ ((ofPairs pairs).after edits).keys →
      other ∈ ((ofPairs pairs).after edits).keys → .remove one ∉ later → .remove other ∉ later →
      ((((ofPairs pairs).after edits).after later).StandsBefore one other ↔
        ((ofPairs pairs).after edits).StandsBefore one other)) ∧
    (∀ (d : Dictionary Node) key value, (Node.dictionary d).insertChild (.key key) value =
      (d.perform (.insert key value)).2.map (.dictionary (d.perform (.insert key value)).1, ·)) ∧
    (∀ (d changed : Dictionary Node) key old,
      (Node.dictionary d).removeChild (.key key) = .ok (.dictionary changed, old) ↔
        d.perform (.remove key) = (changed, .ok (some old))) ∧
    ∀ (d : Dictionary Node) edit,
      (performInPlace edit).on d = ((d.perform edit).2, (d.perform edit).1) := by
  have distinct := distinct_after (distinct_ofPairs pairs) edits
  refine ⟨isOrderedMap distinct, ?_, ?_, insertChild_eq, fun _ _ _ _ => removeChild_eq_ok_iff,
    performInPlace_on⟩
  · intro key
    rw [get?_after (distinct_ofPairs pairs), get?_ofPairs]
  · intro later one other first second stays otherStays
    exact standsBefore_after_iff distinct first second stays otherStays

def kernelPairs : List (String × Node) :=
  [("Add", .ofText "1"), ("Block", .ofText "2"), ("Add", .ofText "3")]

/-- Two of the insertions at positions are refused, and a key comes back after it was taken out. -/
def kernelEdits : List (Edit Node) :=
  [.insertAt 1 "Force" (.ofText "4"), .insertAt 0 "Add" (.ofText "5"),
    .insertAt 9 "Patch" (.ofText "6"), .remove "Block", .insert "Add" (.ofText "7"),
    .insert "Block" (.ofText "8")]

theorem kernelEdits_taken :
    ((ofPairs kernelPairs).after kernelEdits).keys = ["Add", "Force", "Block"] ∧
    ((ofPairs kernelPairs).after kernelEdits).get? "Add" = some (.ofText "7") ∧
    ((ofPairs kernelPairs).after kernelEdits).get? "Block" = some (.ofText "8") ∧
    (((ofPairs kernelPairs).after kernelEdits).perform (.insert "Block" (.ofText "9"))).2 =
      .ok (some (.ofText "8")) ∧
    ((ofPairs kernelPairs).after kernelEdits).perform (.insertAt 7 "Add" (.ofText "9")) =
      ((ofPairs kernelPairs).after kernelEdits, .error (.duplicateKey "Add")) ∧
    ((ofPairs kernelPairs).after kernelEdits).perform (.insertAt 4 "Patch" (.ofText "9")) =
      ((ofPairs kernelPairs).after kernelEdits, .error (.indexOutOfBounds 4 3)) ∧
    (((ofPairs kernelPairs).after kernelEdits).perform (.insertAt 3 "Patch" (.ofText "9"))).2 =
      .ok none ∧
    (((ofPairs kernelPairs).after kernelEdits).after
      [.remove "Force", .insertAt 1 "Patch" (.ofText "9"), .insert "Add" (.ofText "9")]).StandsBefore
        "Add" "Block" ∧
    (performInPlace (.insertAt 7 "Add" (.ofText "9"))).on
      ((ofPairs kernelPairs).after kernelEdits) =
        (.error (.duplicateKey "Add"), (ofPairs kernelPairs).after kernelEdits) := by
  obtain ⟨ordered, latest, stays, -, -, inPlace⟩ := edited_isOrderedMap kernelPairs kernelEdits
  have keys : ((ofPairs kernelPairs).after kernelEdits).keys = ["Add", "Force", "Block"] := rfl
  refine ⟨keys, latest "Add", latest "Block", ?_, ?_, ?_, ?_, ?_, ?_⟩
  · rw [ordered.replaced 2 "Block" (.ofText "8") (.ofText "9") rfl]
  · exact ordered.duplicate 7 "Add" (.ofText "9") (by decide)
  · exact ordered.outOfBounds 4 "Patch" (.ofText "9") (by decide) (by decide)
  · rw [ordered.placed 3 "Patch" (.ofText "9") (by decide) (by decide)]
  · apply (stays _ "Add" "Block" (by decide) (by decide) (by simp) (by simp)).mpr
    unfold StandsBefore
    rw [keys]
    decide
  · rw [inPlace, ordered.duplicate 7 "Add" (.ofText "9") (by decide)]

end BootSnapshot.Dictionary
