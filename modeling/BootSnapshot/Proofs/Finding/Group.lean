import Mathlib.Data.List.Perm.Subperm
import BootSnapshot.Finding.Duplicate
import BootSnapshot.Proofs.Finding.Item
import BootSnapshot.Proofs.Sorted

set_option autoImplicit false

namespace BootSnapshot.Finding

def positionsWith (target : Target) (items : List Node) (key : String) : List Nat :=
  (List.range items.length).filter fun index =>
    (items[index]?).bind (duplicateKey? target) = some key

section Positions

variable {target : Target} {items : List Node} {key : String} {index : Nat}

theorem mem_positionsWith : index ∈ positionsWith target items key ↔
    (items[index]?).bind (duplicateKey? target) = some key := by
  unfold positionsWith
  rw [List.mem_filter, List.mem_range, decide_eq_true_eq]
  refine ⟨And.right, fun keyed => ⟨?_, keyed⟩⟩
  obtain ⟨item, held, -⟩ := Option.bind_eq_some_iff.mp keyed
  exact (List.getElem?_eq_some_iff.mp held).1

theorem pairwise_positionsWith (target : Target) (items : List Node) (key : String) :
    (positionsWith target items key).Pairwise (· < ·) :=
  List.pairwise_lt_range.filter _

theorem positionsWith_concat (target : Target) (items : List Node) (item : Node) (key : String) :
    positionsWith target (items ++ [item]) key = positionsWith target items key ++
      if duplicateKey? target item = some key then [items.length] else [] := by
  have before : ∀ index ∈ List.range items.length, (items ++ [item])[index]? = items[index]? := by
    intro index inside
    exact List.getElem?_append_left (List.mem_range.mp inside)
  unfold positionsWith
  rw [List.length_append, List.length_singleton, List.range_succ, List.filter_append]
  congr 1
  · apply List.filter_congr
    intro index inside
    rw [before index inside]
  · simp only [List.filter_cons, List.filter_nil, List.getElem?_concat_length, Option.bind_some,
      decide_eq_true_eq]

/-- A key is of several items if items at two positions have it. -/
theorem two_le_length_positionsWith_iff : 2 ≤ (positionsWith target items key).length ↔
    ∃ one other : Nat, one < other ∧ (items[one]?).bind (duplicateKey? target) = some key ∧
      (items[other]?).bind (duplicateKey? target) = some key := by
  constructor
  · intro several
    have ascending := pairwise_positionsWith target items key
    have keyed : ∀ index ∈ positionsWith target items key,
        (items[index]?).bind (duplicateKey? target) = some key :=
      fun index inside => mem_positionsWith.mp inside
    match positions : positionsWith target items key with
    | [] | [_] =>
      rw [positions] at several
      simp only [List.length_nil, List.length_singleton] at several
      omega
    | one :: other :: rest =>
      rw [positions] at ascending keyed
      have second : other ∈ one :: other :: rest := List.mem_cons_of_mem one List.mem_cons_self
      exact ⟨one, other, (List.pairwise_cons.mp ascending).1 other List.mem_cons_self,
        keyed one List.mem_cons_self, keyed other second⟩
  · rintro ⟨one, other, before, first, second⟩
    have pair : [one, other] ⊆ positionsWith target items key := by
      intro index either
      rcases List.mem_pair.mp either with rfl | rfl
      · exact mem_positionsWith.mpr first
      · exact mem_positionsWith.mpr second
    have distinct : [one, other].Nodup := by
      rw [List.nodup_cons, List.mem_singleton]
      exact ⟨Nat.ne_of_lt before, List.nodup_singleton other⟩
    exact (List.subperm_of_subset distinct pair).length_le

end Positions

namespace Groups

/-- Groups stand in the order of their keys, no two under one key. -/
def Rising (groups : Groups) : Prop := groups.Pairwise fun one other => one.1 < other.1

/-- The positions that are collected under a key. -/
def under (key : String) : Groups → List Nat
  | [] => []
  | (found, indices) :: rest => if key = found then indices else under key rest

variable {groups : Groups} {group : String × List Nat} {key : String} {index : Nat}

theorem under_eq_nil (absent : ∀ group ∈ groups, key < group.1) : under key groups = [] := by
  induction groups with
  | nil => rfl
  | cons group rest ih =>
    rw [under, if_neg (ne_of_lt (absent group List.mem_cons_self))]
    exact ih fun other member => absent other (List.mem_cons_of_mem group member)

theorem Rising.under_of_mem (rising : Rising groups) (member : group ∈ groups) :
    under group.1 groups = group.2 := by
  induction groups with
  | nil => cases member
  | cons head rest ih =>
    obtain ⟨above, rising⟩ := List.pairwise_cons.mp rising
    rcases List.mem_cons.mp member with rfl | member
    · rw [under, if_pos rfl]
    · rw [under, if_neg (ne_of_gt (above group member))]
      exact ih rising member

theorem mem_of_under_ne_nil (some : under key groups ≠ []) : (key, under key groups) ∈ groups := by
  induction groups with
  | nil => exact absurd rfl some
  | cons head rest ih =>
    rw [under] at some ⊢
    split
    · rename_i same
      rw [same]
      exact List.mem_cons_self
    · rename_i differ
      rw [if_neg differ] at some
      exact List.mem_cons_of_mem head (ih some)

/-- A position goes into a group of its key, and all other groups stay. -/
theorem mem_of_mem_addPosition (member : group ∈ addPosition key index groups) :
    group ∈ groups ∨ group.1 = key ∧ index ∈ group.2 := by
  fun_induction addPosition key index groups with
  | case1 =>
    obtain rfl := List.mem_singleton.mp member
    exact Or.inr ⟨rfl, List.mem_singleton.mpr rfl⟩
  | case2 found indices rest before =>
    rcases List.mem_cons.mp member with rfl | old
    · exact Or.inr ⟨rfl, List.mem_singleton.mpr rfl⟩
    · exact Or.inl old
  | case3 indices rest before =>
    rcases List.mem_cons.mp member with rfl | old
    · exact Or.inr ⟨rfl, List.mem_append_right indices (List.mem_singleton.mpr rfl)⟩
    · exact Or.inl (List.mem_cons_of_mem _ old)
  | case4 found indices rest before differ ih =>
    rcases List.mem_cons.mp member with rfl | later
    · exact Or.inl List.mem_cons_self
    · exact (ih later).imp_left (List.mem_cons_of_mem _)

theorem Rising.addPosition (rising : Rising groups) (key : String) (index : Nat) :
    Rising (addPosition key index groups) := by
  fun_induction Finding.addPosition key index groups with
  | case1 => exact List.pairwise_singleton _ _
  | case2 found indices rest before =>
    refine List.pairwise_cons.mpr ⟨fun group member => ?_, rising⟩
    rcases List.mem_cons.mp member with rfl | member
    · exact before
    · exact before.trans ((List.pairwise_cons.mp rising).1 group member)
  | case3 indices rest before =>
    obtain ⟨above, rising⟩ := List.pairwise_cons.mp rising
    exact List.pairwise_cons.mpr ⟨above, rising⟩
  | case4 found indices rest before differ ih =>
    obtain ⟨above, rising⟩ := List.pairwise_cons.mp rising
    refine List.pairwise_cons.mpr ⟨fun group member => ?_, ih rising⟩
    rcases mem_of_mem_addPosition member with old | ⟨rfl, -⟩
    · exact above group old
    · exact lt_of_le_of_ne (not_lt.mp before) (Ne.symm differ)

theorem Rising.under_addPosition (rising : Rising groups) (key : String) (index : Nat)
    (other : String) : under other (Finding.addPosition key index groups) =
      under other groups ++ if other = key then [index] else [] := by
  fun_induction Finding.addPosition key index groups with
  | case1 =>
    simp only [under, List.nil_append]
  | case2 found indices rest before =>
    rw [under]
    split
    · rename_i same
      -- A key before the first one has no group yet, since the groups rise.
      have none : under other ((found, indices) :: rest) = [] := by
        apply under_eq_nil
        intro group member
        rw [same]
        rcases List.mem_cons.mp member with rfl | member
        · exact before
        · exact before.trans ((List.pairwise_cons.mp rising).1 group member)
      rw [none, List.nil_append]
    · rw [List.append_nil]
  | case3 indices rest before =>
    rw [under, under]
    split
    · rfl
    · rw [List.append_nil]
  | case4 found indices rest before differ ih =>
    rw [under, under]
    split
    · rename_i same
      rw [if_neg (fun equal => differ (equal.symm.trans same)), List.append_nil]
    · exact ih (List.pairwise_cons.mp rising).2

end Groups

/-- Every item that has been passed is in the group of its key and in no other, and no group is
empty. -/
structure Grouped (target : Target) (items : List Node) (groups : Groups) : Prop where
  rising : groups.Rising
  filled : ∀ group ∈ groups, group.2 ≠ []
  complete : ∀ key, groups.under key = positionsWith target items key

section Collecting

variable {target : Target} {items : List Node}

theorem Grouped.addItem {groups : Groups} (grouped : Grouped target items groups) (item : Node) :
    Grouped target (items ++ [item]) (addItem target groups (item, items.length)) := by
  cases keyed : duplicateKey? target item with
  | none =>
    simp only [Finding.addItem, keyed]
    refine ⟨grouped.rising, grouped.filled, fun key => ?_⟩
    rw [grouped.complete, positionsWith_concat, keyed, if_neg (Option.some_ne_none key).symm,
      List.append_nil]
  | some key =>
    simp only [Finding.addItem, keyed]
    refine ⟨grouped.rising.addPosition key items.length, fun group member => ?_, fun other => ?_⟩
    · rcases Groups.mem_of_mem_addPosition member with old | ⟨-, inside⟩
      · exact grouped.filled group old
      · exact List.ne_nil_of_mem inside
    · rw [grouped.rising.under_addPosition, grouped.complete, positionsWith_concat, keyed]
      simp only [Option.some.injEq, eq_comm]

theorem grouped_groupsOf (target : Target) (items : List Node) :
    Grouped target items (groupsOf target items) := by
  -- Items are added in their order, so the induction takes them off from the back.
  induction items using List.reverseRecOn with
  | nil => exact ⟨List.Pairwise.nil, fun _ member => (nomatch member), fun _ => rfl⟩
  | append_singleton items item ih =>
    have step : groupsOf target (items ++ [item]) =
        Finding.addItem target (groupsOf target items) (item, items.length) := by
      unfold groupsOf
      rw [List.zipIdx_append, List.foldl_append, Nat.zero_add]
      rfl
    rw [step]
    exact ih.addItem item

theorem mem_groupsOf_iff {group : String × List Nat} :
    group ∈ groupsOf target items ↔
      group.2 = positionsWith target items group.1 ∧ group.2 ≠ [] := by
  have grouped := grouped_groupsOf target items
  constructor
  · intro member
    rw [← grouped.complete, grouped.rising.under_of_mem member]
    exact ⟨rfl, grouped.filled group member⟩
  · rintro ⟨all, some⟩
    rw [← grouped.complete] at all
    rw [all] at some
    have member := Groups.mem_of_under_ne_nil some
    rw [← all] at member
    exact member

/-- The first position of a group is that of an item with its key. -/
theorem key_of_mem_groupsOf {group : String × List Nat} (member : group ∈ groupsOf target items) :
    (items[group.2.headD 0]?).bind (duplicateKey? target) = some group.1 := by
  obtain ⟨all, some⟩ := mem_groupsOf_iff.mp member
  apply mem_positionsWith.mp
  rw [← all, List.headD_eq_head?_getD, List.head?_eq_some_head some, Option.getD_some]
  exact List.head_mem some

theorem mem_duplicatesOf_iff {finding : Finding} :
    finding ∈ duplicatesOf target items ↔ ∃ key, 2 ≤ (positionsWith target items key).length ∧
      finding = .duplicate target key (positionsWith target items key) := by
  unfold duplicatesOf
  simp only [List.mem_map, List.mem_mergeSort, List.mem_filter, decide_eq_true_eq,
    mem_groupsOf_iff]
  constructor
  · rintro ⟨group, ⟨⟨all, -⟩, several⟩, rfl⟩
    refine ⟨group.1, ?_, by rw [← all]⟩
    rw [← all]
    exact several
  · rintro ⟨key, several, rfl⟩
    have some : positionsWith target items key ≠ [] := by
      intro none
      rw [none] at several
      cases several
    exact ⟨(key, positionsWith target items key), ⟨⟨rfl, some⟩, several⟩, rfl⟩

/-- The findings about a list stand in the order of the first items of their groups. -/
theorem pairwise_duplicatesOf (target : Target) (items : List Node) :
    (duplicatesOf target items).Pairwise fun one other => ∃ first later, first < later ∧
      one.path = target.path ++ [.index first] ∧ other.path = target.path ++ [.index later] := by
  let groups := (groupsOf target items).filter fun group => 1 < group.2.length
  let le (one other : String × List Nat) : Bool := one.2.headD 0 ≤ other.2.headD 0
  have sorts : SortsBy le fun group => group.2.headD 0 := fun one other => decide_eq_true_iff
  have distinct : (groups.mergeSort le).Pairwise fun one other => one.1 ≠ other.1 :=
    ((List.mergeSort_perm groups le).pairwise_iff fun differ => differ.symm).mpr
      (((grouped_groupsOf target items).rising.imp fun less => ne_of_lt less).filter _)
  refine List.pairwise_map.mpr (((sorts.pairwise groups).and distinct).imp_of_mem ?_)
  rintro one other first second ⟨ordered, differ⟩
  have keyed := key_of_mem_groupsOf (List.mem_filter.mp (List.mem_mergeSort.mp first)).1
  have keyed' := key_of_mem_groupsOf (List.mem_filter.mp (List.mem_mergeSort.mp second)).1
  -- Groups that start at one item have its key.
  have apart : one.2.headD 0 ≠ other.2.headD 0 := by
    intro same
    rw [same, keyed', Option.some_inj] at keyed
    exact differ keyed.symm
  exact ⟨one.2.headD 0, other.2.headD 0, lt_of_le_of_ne ordered apart, rfl, rfl⟩

end Collecting

theorem mem_duplicates_iff {document : Document} {finding : Finding} :
    finding ∈ duplicates document ↔ ∃ target items key, document.items? target = some items ∧
      2 ≤ (positionsWith target items key).length ∧
        finding = .duplicate target key (positionsWith target items key) := by
  unfold duplicates
  simp only [List.mem_flatMap, mem_duplicatesOf_iff]
  constructor
  · rintro ⟨target, -, key, several, rfl⟩
    cases list : document.items? target with
    | none =>
      rw [list] at several
      cases several
    | some items =>
      rw [list] at several
      exact ⟨target, items, key, list, several, rfl⟩
  · rintro ⟨target, items, key, list, several, rfl⟩
    refine ⟨target, target.mem_all, key, ?_⟩
    rw [list]
    exact ⟨several, rfl⟩

theorem pairwise_duplicates (document : Document) :
    (duplicates document).Pairwise fun one other => Precedes one.path other.path := by
  refine pairwise_lists ?_ fun target => (pairwise_duplicatesOf target _).imp ?_
  · intro target finding member
    obtain ⟨key, -, rfl⟩ := mem_duplicatesOf_iff.mp member
    exact ⟨_, [], rfl⟩
  · rintro one other ⟨first, later, before, place, place'⟩
    rw [place, place']
    exact .positions before

end BootSnapshot.Finding
