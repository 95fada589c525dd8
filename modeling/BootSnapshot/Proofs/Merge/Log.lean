import BootSnapshot.Proofs.Merge.InPlace
import BootSnapshot.Proofs.Merge.Reconcile

set_option autoImplicit false

namespace BootSnapshot

/-- Later items have greater positions. -/
theorem pairwise_zipIdx {α : Type} (items : List α) (index : Nat) :
    (items.zipIdx index).Pairwise fun one other => one.2 < other.2 := by
  apply List.pairwise_map.mp
  rw [List.zipIdx_map_snd]
  exact List.pairwise_lt_range' 1

namespace Merge

section Passes

variable (target : Target) (identity : KextIdentity) (wanted : Wanted)

theorem staleChanges_eq (index : Nat) (items : List Node) :
    staleChanges target identity wanted index items =
      (items.zipIdx index).filterMap fun entry =>
        (stale? target identity wanted entry.1).map fun path =>
          ⟨target, .staleRemoved, path, entry.2⟩ := by
  induction items generalizing index with
  | nil => rfl
  | cons node rest ih =>
    cases gone : stale? target identity wanted node with
    | none => simp only [staleChanges, gone, ih, List.zipIdx_cons, List.filterMap_cons,
        Option.map_none]
    | some path => simp only [staleChanges, gone, ih, List.zipIdx_cons, List.filterMap_cons,
        Option.map_some]

theorem cleanChanges_eq (index : Nat) (items : List Node) :
    cleanChanges target identity index items = (items.zipIdx index).map fun entry =>
      ⟨target, .removed, removedName target identity entry.1, entry.2⟩ := by
  induction items generalizing index with
  | nil => rfl
  | cons node rest ih => simp only [cleanChanges, ih, List.zipIdx_cons, List.map_cons]

theorem addedChanges_eq (index : Nat) (added : Wanted) :
    addedChanges target index added = (added.zipIdx index).map fun entry =>
      ⟨target, .added, entry.1.1, entry.2⟩ := by
  induction added generalizing index with
  | nil => rfl
  | cons pair rest ih => simp only [addedChanges, ih, List.zipIdx_cons, List.map_cons]

theorem updateKexts_eq (index : Nat) (items : List Node) :
    updateKexts identity wanted index items =
      ((items.zipIdx index).map fun entry => (updateKext identity wanted entry.2 entry.1).1,
        (items.zipIdx index).flatMap fun entry => (updateKext identity wanted entry.2 entry.1).2) := by
  induction items generalizing index with
  | nil => rfl
  | cons node rest ih =>
    simp only [updateKexts, ih, List.zipIdx_cons, List.map_cons, List.flatMap_cons]

end Passes

theorem updateField_sublist (index : Nat) (path field new : String) (fields : Dictionary Node) :
    (updateField index path field new fields).2.Sublist
      [⟨.kernelAdd, .pathUpdated field (fields.textOrEmpty field) new, path, index⟩] := by
  unfold updateField
  by_cases same : fields.textOrEmpty field = new
  · simp only [same, ↓reduceIte, List.nil_sublist]
  · simp only [same, ↓reduceIte, List.Sublist.refl]

/-- At most two paths of an item are updated, that of the executable first. -/
theorem updateKext_sublist (identity : KextIdentity) (wanted : Wanted) (index : Nat)
    (node : Node) : ∃ path old new old' new', (updateKext identity wanted index node).2.Sublist
      [⟨.kernelAdd, .pathUpdated Field.executablePath old new, path, index⟩,
        ⟨.kernelAdd, .pathUpdated Field.plistPath old' new', path, index⟩] := by
  cases dictionary : node.dictionary? with
  | none =>
    rw [updateKext_other dictionary]
    exact ⟨"", "", "", "", "", List.nil_sublist _⟩
  | some fields =>
    obtain rfl := Node.eq_of_dictionary? dictionary
    unfold updateKext
    dsimp only
    split
    · exact ⟨_, _, _, _, _, (updateField_sublist _ _ _ _ _).append (updateField_sublist _ _ _ _ _)⟩
    · exact ⟨"", "", "", "", "", List.nil_sublist _⟩

theorem mem_updateKext {identity : KextIdentity} {wanted : Wanted} {index : Nat} {node : Node}
    {change : Change} (member : change ∈ (updateKext identity wanted index node).2) :
    change.target = .kernelAdd ∧ change.index = index ∧
      ∃ field ∈ followedKeys, ∃ old new, change.kind = .pathUpdated field old new := by
  obtain ⟨path, old, new, old', new', sublist⟩ := updateKext_sublist identity wanted index node
  have inside := sublist.subset member
  simp only [List.mem_cons, List.not_mem_nil, or_false] at inside
  rcases inside with rfl | rfl
  · exact ⟨rfl, rfl, Field.executablePath, by decide, old, new, rfl⟩
  · exact ⟨rfl, rfl, Field.plistPath, by decide, old', new', rfl⟩

theorem mem_updateKexts {identity : KextIdentity} {wanted : Wanted} {index : Nat}
    {items : List Node} {change : Change}
    (member : change ∈ (updateKexts identity wanted index items).2) :
    change.target = .kernelAdd ∧
      ∃ field ∈ followedKeys, ∃ old new, change.kind = .pathUpdated field old new := by
  rw [updateKexts_eq] at member
  obtain ⟨entry, -, inside⟩ := List.mem_flatMap.mp member
  obtain ⟨kexts, -, kind⟩ := mem_updateKext inside
  exact ⟨kexts, kind⟩

theorem target_of_mem_append {target : Target} {bare : Bool} {items : List Node}
    {removals : ChangeLog} {added : Wanted}
    (own : ∀ change ∈ removals, change.target = target) {change : Change}
    (member : change ∈ (Outcome.append target bare items removals added).changes) :
    change.target = target := by
  rcases List.mem_append.mp member with early | late
  · exact own change early
  · rw [addedChanges_eq] at late
    obtain ⟨entry, -, rfl⟩ := List.mem_map.mp late
    rfl

theorem target_of_mem_staleChanges {target : Target} {identity : KextIdentity} {wanted : Wanted}
    {index : Nat} {items : List Node} {change : Change}
    (member : change ∈ staleChanges target identity wanted index items) :
    change.target = target := by
  rw [staleChanges_eq] at member
  obtain ⟨entry, -, told⟩ := List.mem_filterMap.mp member
  obtain ⟨path, -, rfl⟩ := Option.map_eq_some_iff.mp told
  rfl

/-- Every change that reconciling a list tells of names the list. -/
theorem target_of_mem_reconcile {target : Target} {existing : List Node}
    {components : List Component} {mode : Mode} {change : Change}
    (member : change ∈ (reconcile target existing components mode).changes) :
    change.target = target := by
  cases mode with
  | clean =>
    refine target_of_mem_append (fun removal inside => ?_) member
    rw [cleanChanges_eq] at inside
    obtain ⟨entry, -, rfl⟩ := List.mem_map.mp inside
    rfl
  | additive =>
    by_cases kexts : target = .kernelAdd
    · subst kexts
      simp only [reconcile, ↓reduceIte] at member
      refine target_of_mem_append (fun change inside => ?_) member
      rcases List.mem_append.mp inside with stale | updated
      · exact target_of_mem_staleChanges stale
      · exact (mem_updateKexts updated).1
    · simp only [reconcile, kexts, ↓reduceIte] at member
      exact target_of_mem_append (fun _ inside => target_of_mem_staleChanges inside) member

theorem ofTarget_flatMap {changesOf : Target → ChangeLog}
    (own : ∀ target, ∀ change ∈ changesOf target, change.target = target)
    {targets : List Target} (distinct : targets.Nodup) (target : Target) :
    ChangeLog.ofTarget (targets.flatMap changesOf) target =
      if target ∈ targets then changesOf target else [] := by
  unfold ChangeLog.ofTarget
  induction targets with
  | nil => rfl
  | cons other rest ih =>
    obtain ⟨fresh, distinctRest⟩ := List.nodup_cons.mp distinct
    rw [List.flatMap_cons, List.filter_append, ih distinctRest]
    by_cases same : target = other
    · subst same
      have all : (changesOf target).filter (·.target = target) = changesOf target :=
        List.filter_eq_self.mpr fun change member => decide_eq_true (own target change member)
      simp only [all, fresh, ↓reduceIte, List.append_nil, List.mem_cons, true_or]
    · have none : (changesOf other).filter (·.target = target) = [] := by
        refine List.filter_eq_nil_iff.mpr fun change member => ?_
        rw [own other change member, decide_eq_true_eq]
        exact Ne.symm same
      simp only [none, List.nil_append, List.mem_cons, same, false_or]

/-- What a successful merge reports of a list is what reconciling the list reports. -/
theorem ofTarget_of_mergeTargets {document after : Document} {discovered : List Component}
    {mode : Mode} {targets : List Target} {log : ChangeLog}
    (done : mergeTargets document discovered mode targets = .ok (after, log)) (target : Target) :
    log.ofTarget target =
      if target ∈ targets then (outcomeOf document discovered mode target).changes else [] := by
  have staging : stage document discovered mode (Target.all.filter (· ∈ targets)) = _ :=
    stage_of_admits discovered mode fun other member =>
      admits_of_mergeTargets done other (of_decide_eq_true (List.mem_filter.mp member).2)
  unfold mergeTargets at done
  rw [staging] at done
  obtain ⟨-, rfl⟩ := Prod.mk.inj (Except.ok.inj done)
  have own : ∀ other, ∀ change ∈ (outcomeOf document discovered mode other).changes,
      change.target = other := fun _ _ member => target_of_mem_reconcile member
  have logs := ofTarget_flatMap own (Target.nodup_all.filter (· ∈ targets)) target
  simp only [List.mem_filter, Target.mem_all, true_and, decide_eq_true_eq] at logs
  rw [List.flatMap_map]
  exact logs

end Merge
end BootSnapshot
