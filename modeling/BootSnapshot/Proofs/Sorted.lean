import Mathlib.Data.List.Nodup
import Mathlib.Data.Prod.Lex
import Mathlib.Data.String.Basic
import BootSnapshot.Sorted

set_option autoImplicit false

namespace BootSnapshot

variable {α κ : Type} [LinearOrder κ]

def SortsBy (le : α → α → Bool) (key : α → κ) : Prop :=
  ∀ one other, le one other = true ↔ key one ≤ key other

namespace SortsBy

variable {le : α → α → Bool} {key : α → κ} {one other : List α}

theorem pairwise (sorts : SortsBy le key) (items : List α) :
    (items.mergeSort le).Pairwise fun a b => key a ≤ key b := by
  have sorted : (items.mergeSort le).Pairwise fun a b => le a b = true :=
    List.pairwise_mergeSort
      (fun a b c first second =>
        (sorts a c).mpr (((sorts a b).mp first).trans ((sorts b c).mp second)))
      (fun a b => Bool.or_eq_true_iff.mpr
        ((le_total (key a) (key b)).imp (sorts a b).mpr (sorts b a).mpr))
      items
  exact sorted.imp fun {a b} => (sorts a b).mp

theorem mergeSort_perm (perm : one.Perm other) : (one.mergeSort le).Perm (other.mergeSort le) :=
  (List.mergeSort_perm one le).trans (perm.trans (List.mergeSort_perm other le).symm)

/-- Sorted lists show the same keys, even where items of one key change places. -/
theorem keys_eq (sorts : SortsBy le key) (perm : one.Perm other) :
    (one.mergeSort le).map key = (other.mergeSort le).map key :=
  List.Perm.eq_of_pairwise (fun _ _ _ _ => le_antisymm)
    (List.pairwise_map.mpr (sorts.pairwise one)) (List.pairwise_map.mpr (sorts.pairwise other))
    ((mergeSort_perm perm).map key)

/-- Where a key tells the item, sorted lists are the same. -/
theorem mergeSort_eq (sorts : SortsBy le key) (perm : one.Perm other)
    (telling : ∀ a ∈ one, ∀ b ∈ one, key a = key b → a = b) :
    one.mergeSort le = other.mergeSort le := by
  refine List.Perm.eq_of_pairwise (fun a b inOne inOther first second => ?_)
    (sorts.pairwise one) (sorts.pairwise other) (mergeSort_perm perm)
  have inOne' := perm.mem_iff.mpr (List.mem_mergeSort.mp inOther)
  exact telling a (List.mem_mergeSort.mp inOne) b inOne' (le_antisymm first second)

/-- A list whose keys rise is what sorting makes of it in any order. -/
theorem mergeSort_eq_of_rising (sorts : SortsBy le key) (perm : one.Perm other)
    (rising : other.Pairwise fun a b => key a < key b) : one.mergeSort le = other := by
  have distinct : (other.map key).Nodup :=
    List.pairwise_map.mpr (rising.imp fun {a b} (less : key a < key b) => less.ne)
  have whole := (List.mergeSort_perm one le).trans perm
  refine List.Perm.eq_of_pairwise (fun a b inOne inOther first second => ?_)
    (sorts.pairwise one) (rising.imp fun {a b} (less : key a < key b) => less.le) whole
  exact List.inj_on_of_nodup_map distinct (whole.mem_iff.mp inOne) inOther
    (le_antisymm first second)

end SortsBy

/-- Repeats are told by what items show. -/
theorem map_withoutRepeats {β : Type} {same : α → α → Bool} {alike : β → β → Bool} {shown : α → β}
    (told : ∀ a b, same a b = alike (shown a) (shown b)) (items : List α) :
    (withoutRepeats same items).map shown = withoutRepeats alike (items.map shown) := by
  fun_induction withoutRepeats same items with
  | case1 => simp only [List.map_nil, withoutRepeats]
  | case2 item => simp only [List.map_cons, List.map_nil, withoutRepeats]
  | case3 item next rest repeated ih =>
    simp only [List.map_cons, withoutRepeats, ← told, repeated, ↓reduceIte] at ih ⊢
    exact ih
  | case4 item next rest fresh ih =>
    simp only [List.map_cons, withoutRepeats, ← told, fresh] at ih ⊢
    exact congrArg (shown item :: ·) ih

theorem withoutRepeats_sublist (same : α → α → Bool) (items : List α) :
    (withoutRepeats same items).Sublist items := by
  fun_induction withoutRepeats same items with
  | case1 => exact .slnil
  | case2 item => exact .refl _
  | case3 item next rest repeated ih =>
    exact ih.trans ((List.sublist_cons_self next rest).cons_cons item)
  | case4 item next rest fresh ih => exact ih.cons_cons item

section Keys

variable {same : α → α → Bool} {key : α → κ}

omit [LinearOrder κ] in
/-- An item that is left out shows the key of one that stays. -/
theorem exists_mem_withoutRepeats (told : ∀ a b, same a b = true ↔ key a = key b)
    {items : List α} {item : α} (inside : item ∈ items) :
    ∃ kept ∈ withoutRepeats same items, key kept = key item := by
  fun_induction withoutRepeats same items generalizing item with
  | case1 => cases inside
  | case2 first => exact ⟨first, List.mem_singleton.mpr rfl, by rw [List.mem_singleton.mp inside]⟩
  | case3 first next rest repeated ih =>
    rcases List.mem_cons.mp inside with rfl | later
    · exact ih List.mem_cons_self
    · rcases List.mem_cons.mp later with rfl | last
      · obtain ⟨kept, member, shows⟩ := ih List.mem_cons_self
        exact ⟨kept, member, shows.trans ((told _ _).mp repeated)⟩
      · exact ih (List.mem_cons_of_mem _ last)
  | case4 first next rest fresh ih =>
    rcases List.mem_cons.mp inside with rfl | later
    · exact ⟨_, List.mem_cons_self, rfl⟩
    · obtain ⟨kept, member, shows⟩ := ih later
      exact ⟨kept, List.mem_cons_of_mem _ member, shows⟩

/-- Of sorted items each key stays once, and the keys rise. -/
theorem withoutRepeats_rising (told : ∀ a b, same a b = true ↔ key a = key b) {items : List α}
    (sorted : items.Pairwise fun a b => key a ≤ key b) :
    (withoutRepeats same items).Pairwise fun a b => key a < key b := by
  fun_induction withoutRepeats same items with
  | case1 => exact .nil
  | case2 item => exact List.pairwise_singleton _ _
  | case3 item next rest repeated ih =>
    exact ih (sorted.sublist ((List.sublist_cons_self next rest).cons_cons item))
  | case4 item next rest fresh ih =>
    obtain ⟨first, later⟩ := List.pairwise_cons.mp sorted
    refine List.pairwise_cons.mpr ⟨fun other member => ?_, ih later⟩
    have differ : key item ≠ key next := fun shows => fresh ((told _ _).mpr shows)
    have less : key item < key next := lt_of_le_of_ne (first next List.mem_cons_self) differ
    rcases List.mem_cons.mp ((withoutRepeats_sublist same _).subset member) with rfl | further
    · exact less
    · exact less.trans_le ((List.pairwise_cons.mp later).1 other further)

end Keys

theorem sortTexts_sortsBy : SortsBy (fun a b : String => decide (a ≤ b)) id :=
  fun _ _ => decide_eq_true_iff

theorem mem_distinctTexts {texts : List String} {text : String} :
    text ∈ distinctTexts texts ↔ text ∈ texts := by
  constructor
  · intro member
    exact List.mem_mergeSort.mp ((withoutRepeats_sublist _ _).subset member)
  · intro member
    have told (a b : String) : decide (a = b) = true ↔ id a = id b := decide_eq_true_iff
    obtain ⟨kept, stays, rfl⟩ := exists_mem_withoutRepeats told (List.mem_mergeSort.mpr member)
    exact stays

theorem distinctTexts_rising (texts : List String) : (distinctTexts texts).Pairwise (· < ·) := by
  have told (a b : String) : decide (a = b) = true ↔ id a = id b := decide_eq_true_iff
  exact withoutRepeats_rising told (sortTexts_sortsBy.pairwise texts)

theorem distinctTexts_eq {one other : List String} (perm : one.Perm other) :
    distinctTexts one = distinctTexts other := by
  unfold distinctTexts sortTexts
  rw [sortTexts_sortsBy.mergeSort_eq perm fun _ _ _ _ same => same]

end BootSnapshot
