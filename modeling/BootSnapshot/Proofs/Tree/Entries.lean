import Mathlib.Data.List.InsertIdx
import Mathlib.Data.List.Nodup
import BootSnapshot.Proofs.Tree.Step

set_option autoImplicit false

namespace BootSnapshot.Dictionary

variable {α : Type}

theorem lookup_eq_none_iff {key : String} {entries : List (String × α)} :
    lookup key entries = none ↔ key ∉ entries.map Prod.fst := by
  induction entries with
  | nil => simp [lookup]
  | cons entry rest ih =>
    obtain ⟨name, value⟩ := entry
    by_cases same : name = key
    · simp [lookup, same]
    · simp [lookup, same, Ne.symm same, ih]

theorem lookup_append (key : String) (front back : List (String × α)) :
    lookup key (front ++ back) = (lookup key front).or (lookup key back) := by
  induction front with
  | nil => rfl
  | cons entry rest ih =>
    obtain ⟨name, value⟩ := entry
    by_cases same : name = key
    · simp [lookup, same]
    · simp [lookup, same, ih]

theorem lookup_behind {key : String} {front : List (String × α)}
    (absent : key ∉ front.map Prod.fst) (back : List (String × α)) :
    lookup key (front ++ back) = lookup key back := by
  rw [lookup_append, lookup_eq_none_iff.mpr absent, Option.none_or]

theorem put_behind {key : String} {front : List (String × α)} (absent : key ∉ front.map Prod.fst)
    (value : α) (back : List (String × α)) :
    put key value (front ++ back) = front ++ put key value back := by
  induction front with
  | nil => rfl
  | cons entry rest ih =>
    obtain ⟨name, old⟩ := entry
    have apart : ¬ name = key := Ne.symm (List.ne_of_not_mem_cons absent)
    have later := ih (List.not_mem_of_not_mem_cons absent)
    simp only [List.cons_append, put, apart, ↓reduceIte, later]

theorem drop_behind {key : String} {front : List (String × α)} (absent : key ∉ front.map Prod.fst)
    (back : List (String × α)) : drop key (front ++ back) = front ++ drop key back := by
  induction front with
  | nil => rfl
  | cons entry rest ih =>
    obtain ⟨name, old⟩ := entry
    have apart : ¬ name = key := Ne.symm (List.ne_of_not_mem_cons absent)
    have later := ih (List.not_mem_of_not_mem_cons absent)
    simp only [List.cons_append, drop, apart, ↓reduceIte, later]

theorem drop_of_absent {key : String} {entries : List (String × α)}
    (absent : key ∉ entries.map Prod.fst) : drop key entries = entries := by
  have behind := drop_behind absent []
  rwa [List.append_nil, drop, List.append_nil] at behind

theorem map_fst_drop (key : String) (entries : List (String × α)) :
    (drop key entries).map Prod.fst = (entries.map Prod.fst).erase key := by
  induction entries with
  | nil => rfl
  | cons entry rest ih =>
    obtain ⟨name, old⟩ := entry
    by_cases same : name = key
    · simp [drop, same]
    · simp [drop, same, ih]

theorem lookup_drop_ne {key other : String} (apart : other ≠ key) (entries : List (String × α)) :
    lookup other (drop key entries) = lookup other entries := by
  induction entries with
  | nil => rfl
  | cons entry rest ih =>
    obtain ⟨name, old⟩ := entry
    by_cases same : name = key
    · have differ : ¬ key = other := Ne.symm apart
      simp [drop, lookup, same, differ]
    · simp [drop, lookup, same, ih]

theorem drop_put (key : String) (value : α) (entries : List (String × α)) :
    drop key (put key value entries) = drop key entries := by
  induction entries with
  | nil => simp [put, drop]
  | cons entry rest ih =>
    obtain ⟨name, old⟩ := entry
    by_cases same : name = key
    · simp [put, drop, same]
    · simp [put, drop, same, ih]

theorem drop_eq_eraseP (key : String) (entries : List (String × α)) :
    drop key entries = entries.eraseP fun entry => entry.1 = key := by
  induction entries with
  | nil => rfl
  | cons entry rest ih =>
    obtain ⟨name, old⟩ := entry
    by_cases same : name = key
    · simp [drop, same]
    · simp [drop, same, ih]

/-- An entry parts the entries before it, none of which has its key, from those behind it. -/
theorem split_at {entries : List (String × α)} (distinct : (entries.map Prod.fst).Nodup)
    {position : Nat} {key : String} {value : α} (found : entries[position]? = some (key, value)) :
    entries = entries.take position ++ (key, value) :: entries.drop (position + 1) ∧
      key ∉ (entries.take position).map Prod.fst := by
  obtain ⟨inside, same⟩ := List.getElem?_eq_some_iff.mp found
  have parted : entries = entries.take position ++ (key, value) :: entries.drop (position + 1) := by
    rw [← same, ← List.drop_eq_getElem_cons inside, List.take_append_drop]
  refine ⟨parted, ?_⟩
  rw [parted, List.map_append, List.map_cons, List.nodup_middle] at distinct
  intro member
  exact (List.nodup_cons.mp distinct).1 (List.mem_append_left _ member)

variable {entries : List (String × α)} {position : Nat} {key : String} {old : α}

theorem lookup_at (distinct : (entries.map Prod.fst).Nodup)
    (found : entries[position]? = some (key, old)) : lookup key entries = some old := by
  obtain ⟨parted, absent⟩ := split_at distinct found
  rw [parted, lookup_behind absent]
  simp only [lookup, ↓reduceIte]

theorem put_at (distinct : (entries.map Prod.fst).Nodup)
    (found : entries[position]? = some (key, old)) (value : α) :
    put key value entries = entries.set position (key, value) := by
  obtain ⟨inside, -⟩ := List.getElem?_eq_some_iff.mp found
  obtain ⟨parted, absent⟩ := split_at distinct found
  rw [List.set_eq_take_append_cons_drop, if_pos inside]
  conv => lhs; rw [parted]
  rw [put_behind absent]
  simp only [put, ↓reduceIte]

theorem drop_at (distinct : (entries.map Prod.fst).Nodup)
    (found : entries[position]? = some (key, old)) :
    drop key entries = entries.eraseIdx position := by
  obtain ⟨parted, absent⟩ := split_at distinct found
  rw [List.eraseIdx_eq_take_drop_succ]
  conv => lhs; rw [parted]
  rw [drop_behind absent]
  simp only [drop, ↓reduceIte]

/-- Taking in at a position that is not behind the end. -/
theorem take_append_cons_drop {β : Type} {items : List β} {position : Nat}
    (inside : position ≤ items.length) (added : β) :
    items.take position ++ added :: items.drop position = items.insertIdx position added := by
  induction items generalizing position with
  | nil =>
    obtain rfl : position = 0 := Nat.le_zero.mp inside
    rfl
  | cons item rest ih =>
    cases position with
    | zero => rfl
    | succ position =>
      have within : position ≤ rest.length := Nat.le_of_succ_le_succ inside
      simp only [List.take_succ_cons, List.drop_succ_cons, List.cons_append, ih within,
        List.insertIdx_succ_cons]

theorem lookup_insertIdx (fresh : key ∉ entries.map Prod.fst) (inside : position ≤ entries.length)
    (value : α) (other : String) :
    lookup other (entries.insertIdx position (key, value)) =
      if key = other then some value else lookup other entries := by
  rw [← take_append_cons_drop inside, lookup_append, lookup]
  split
  · rename_i same
    have absent : other ∉ (entries.take position).map Prod.fst := by
      rw [← same, List.map_take]
      exact fun member => fresh (List.mem_of_mem_take member)
    rw [lookup_eq_none_iff.mpr absent, Option.none_or]
  · rw [← lookup_append, List.take_append_drop]

theorem lookup_drop_self (distinct : (entries.map Prod.fst).Nodup) (key : String) :
    lookup key (drop key entries) = none := by
  rw [lookup_eq_none_iff, map_fst_drop]
  exact distinct.not_mem_erase

theorem foldl_insert_of_distinct {front pairs : List (String × α)}
    (distinct : ((front ++ pairs).map Prod.fst).Nodup) :
    pairs.foldl (fun d pair => d.insert pair.1 pair.2) (⟨front⟩ : Dictionary α) =
      ⟨front ++ pairs⟩ := by
  induction pairs generalizing front with
  | nil => rw [List.foldl_nil, List.append_nil]
  | cons pair rest ih =>
    have split : front ++ pair :: rest = (front ++ [pair]) ++ rest := by simp
    have fresh : pair.1 ∉ front.map Prod.fst := by
      rw [List.map_append, List.map_cons, List.nodup_middle, List.nodup_cons] at distinct
      exact fun member => distinct.1 (List.mem_append_left _ member)
    rw [split] at distinct ⊢
    rw [List.foldl_cons, insert, put_fresh fresh]
    exact ih distinct

/-- Pairs of distinct keys are the entries of the dictionary that is collected from them. -/
theorem ofPairs_of_distinct {pairs : List (String × α)} (distinct : (pairs.map Prod.fst).Nodup) :
    ofPairs pairs = ⟨pairs⟩ :=
  @foldl_insert_of_distinct α [] pairs distinct

end BootSnapshot.Dictionary
