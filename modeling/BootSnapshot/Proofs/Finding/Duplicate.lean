import BootSnapshot.Proofs.Finding.Group

set_option autoImplicit false

namespace BootSnapshot.Finding

/-- Two items are not the same component: they have no key in common. -/
def Differ (target : Target) (one other : Node) : Prop :=
  ∀ key, duplicateKey? target one = some key → duplicateKey? target other ≠ some key

theorem Differ.symm {target : Target} {one other : Node} (differ : Differ target one other) :
    Differ target other one :=
  fun key second first => differ key first second

theorem differ_of_ne {target : Target} {one other : Node} {first second : String}
    (found : duplicateKey? target one = some first)
    (found' : duplicateKey? target other = some second) (apart : first ≠ second) :
    Differ target one other := by
  intro key same same'
  rw [found] at same
  rw [found'] at same'
  exact apart ((Option.some_inj.mp same).trans (Option.some_inj.mp same').symm)

/-- The check reports nothing exactly if all keys are different. -/
theorem duplicatesOf_eq_nil_iff (target : Target) (items : List Node) :
    duplicatesOf target items = [] ↔ items.Pairwise (Differ target) := by
  rw [List.eq_nil_iff_forall_not_mem, List.pairwise_iff_getElem]
  constructor
  · intro silent one other inside inside' before key first second
    have keyed (index : Nat) (inside : index < items.length) :
        (items[index]?).bind (duplicateKey? target) = duplicateKey? target items[index] := by
      rw [List.getElem?_eq_getElem inside, Option.bind_some]
    rw [← keyed] at first second
    apply silent (.duplicate target key (positionsWith target items key))
    exact mem_duplicatesOf_iff.mpr
      ⟨key, two_le_length_positionsWith_iff.mpr ⟨one, other, before, first, second⟩, rfl⟩
  · intro apart finding member
    obtain ⟨key, several, -⟩ := mem_duplicatesOf_iff.mp member
    obtain ⟨one, other, before, first, second⟩ := two_le_length_positionsWith_iff.mp several
    obtain ⟨item, held, first⟩ := Option.bind_eq_some_iff.mp first
    obtain ⟨item', held', second⟩ := Option.bind_eq_some_iff.mp second
    obtain ⟨inside, rfl⟩ := List.getElem?_eq_some_iff.mp held
    obtain ⟨inside', rfl⟩ := List.getElem?_eq_some_iff.mp held'
    exact apart one other inside inside' before key first second

/-- A document is free of duplicates if each of its lists is. -/
theorem duplicates_eq_nil_iff (document : Document) :
    duplicates document = [] ↔
      ∀ target, ((document.items? target).getD []).Pairwise (Differ target) := by
  unfold duplicates
  rw [List.flatMap_eq_nil_iff]
  constructor
  · exact fun silent target => (duplicatesOf_eq_nil_iff target _).mp (silent target target.mem_all)
  · exact fun apart target _ => (duplicatesOf_eq_nil_iff target _).mpr (apart target)

end BootSnapshot.Finding
