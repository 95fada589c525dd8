import BootSnapshot.Finding.Basic
import BootSnapshot.Proofs.Merge.Log

set_option autoImplicit false

namespace BootSnapshot.Finding

def itemAt? (document : Document) (target : Target) (index : Nat) : Option Node :=
  (document.items? target).bind (·[index]?)

theorem getElem?_getD_items? (document : Document) (target : Target) (index : Nat) :
    ((document.items? target).getD [])[index]? = itemAt? document target index := by
  unfold itemAt?
  cases document.items? target with
  | none => rfl
  | some items => rfl

/-- The place of something in an item tells the list, the position and the way from the item. -/
theorem place_injective {target target' : Target} {index index' : Nat} {way way' : Path}
    (same : target.path ++ .index index :: way = target'.path ++ .index index' :: way') :
    target = target' ∧ index = index' ∧ way = way' := by
  simp only [Target.path, List.cons_append, List.nil_append, List.cons.injEq, Segment.key.injEq,
    Segment.index.injEq] at same
  exact ⟨Target.sectionKey_injective same.1, same.2.2.1, same.2.2.2⟩

def kextWays : List Path :=
  [[.key Field.bundlePath], [.key Field.executablePath], [.key Field.plistPath]]

/-- The order of the document: its lists in their order, the items of a list by position, and the
fields of a kext in order. -/
inductive Precedes : Path → Path → Prop where
  | lists {target target' : Target} {index index' : Nat} {way way' : Path} :
    [target, target'].Sublist Target.all →
      Precedes (target.path ++ .index index :: way) (target'.path ++ .index index' :: way')
  | positions {target : Target} {index index' : Nat} {way way' : Path} : index < index' →
    Precedes (target.path ++ .index index :: way) (target.path ++ .index index' :: way')
  | fields {target : Target} {index : Nat} {way way' : Path} : [way, way'].Sublist kextWays →
    Precedes (target.path ++ .index index :: way) (target.path ++ .index index :: way')

theorem ne_of_sublist {α : Type} {one other : α} {items : List α} (distinct : items.Nodup)
    (before : [one, other].Sublist items) : one ≠ other := by
  have pair := distinct.sublist before
  exact fun same => (List.nodup_cons.mp pair).1 (List.mem_singleton.mpr same)

/-- Places that one after the other are different. -/
theorem Precedes.ne {one other : Path} (before : Precedes one other) : one ≠ other := by
  intro same
  cases before with
  | lists earlier => exact ne_of_sublist Target.nodup_all earlier (place_injective same).1
  | positions earlier => exact Nat.ne_of_lt earlier (place_injective same).2.1
  | fields earlier => exact ne_of_sublist (by decide) earlier (place_injective same).2.2

/-- Findings about items, list by list, stand in the order of the document if those about the items
of one list do. -/
theorem pairwise_lists {findingsOf : Target → List Finding}
    (about : ∀ target, ∀ finding ∈ findingsOf target, ∃ index way,
      finding.path = target.path ++ .index index :: way)
    (within : ∀ target,
      (findingsOf target).Pairwise fun one other => Precedes one.path other.path) :
    (Target.all.flatMap findingsOf).Pairwise fun one other => Precedes one.path other.path := by
  have ordered : Target.all.Pairwise fun target target' =>
      [target, target'].Sublist Target.all := by decide
  refine List.pairwise_flatMap.mpr ⟨fun target _ => within target, ordered.imp ?_⟩
  intro target target' earlier one first other second
  obtain ⟨index, way, place⟩ := about target one first
  obtain ⟨index', way', place'⟩ := about target' other second
  rw [place, place']
  exact .lists earlier

end BootSnapshot.Finding
