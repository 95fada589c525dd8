import BootSnapshot.Proofs.Merge.Log

set_option autoImplicit false

namespace BootSnapshot.Merge

open Document

/-- Merges lists one after another, each into the document that the merge before it leaves. -/
def mergeEach (document : Document) (discovered : List Component) (mode : Mode) :
    List Target → Except MergeError (Document × ChangeLog)
  | [] => .ok (document, [])
  | target :: rest =>
    match mergeTargets document discovered mode [target] with
    | .error error => .error error
    | .ok (next, log) =>
      (mergeEach next discovered mode rest).map fun (after, later) => (after, log ++ later)

/-- Lists with what reconciling each of them with its components gives. -/
def outcomes (document : Document) (discovered : List Component) (mode : Mode)
    (targets : List Target) : List (Target × Outcome) :=
  targets.map fun target => (target, outcomeOf document discovered mode target)

def changesOf (document : Document) (discovered : List Component) (mode : Mode)
    (targets : List Target) : ChangeLog :=
  targets.flatMap fun target => (outcomeOf document discovered mode target).changes

/-- Two documents that came from a third one differ at most in the order of the new keys. -/
structure SameButNewOrder (document one other : Document) : Prop where
  values : ∀ key, other.get? key = one.get? key
  keys : ∃ created created', one.root.keys = document.root.keys ++ created ∧
    other.root.keys = document.root.keys ++ created' ∧ created'.Perm created

section Merges

variable {document : Document} (discovered : List Component) (mode : Mode)

theorem map_fst_outcomes (targets : List Target) :
    (outcomes document discovered mode targets).map Prod.fst = targets := by
  unfold outcomes
  rw [List.map_map]
  exact List.map_id'' (fun _ => rfl) targets

theorem admits_of_mem_outcomes {targets : List Target}
    (admits : ∀ target ∈ targets, document.Admits target) :
    ∀ entry ∈ outcomes document discovered mode targets, document.Admits entry.1 := by
  intro entry member
  obtain ⟨target, inside, rfl⟩ := List.mem_map.mp member
  exact admits target inside

/-- A merge of several lists reads all of them in the document that it is given. -/
theorem mergeTargets_eq {targets : List Target}
    (admits : ∀ target ∈ targets, document.Admits target) :
    mergeTargets document discovered mode targets =
      .ok (commitAll document (outcomes document discovered mode (Target.all.filter (· ∈ targets))),
        changesOf document discovered mode (Target.all.filter (· ∈ targets))) := by
  have staging : stage document discovered mode (Target.all.filter (· ∈ targets)) =
      .ok (outcomes document discovered mode (Target.all.filter (· ∈ targets))) := by
    apply stage_of_admits
    intro target member
    exact admits target (of_decide_eq_true (List.mem_filter.mp member).2)
  unfold mergeTargets changesOf
  simp only [staging, outcomes, List.flatMap_map]

theorem mergeTargets_single {target : Target} (admits : document.Admits target) :
    mergeTargets document discovered mode [target] =
      .ok (commit document target (outcomeOf document discovered mode target).items,
        (outcomeOf document discovered mode target).changes) := by
  have alone : Target.all.filter (· ∈ [target]) = [target] := by cases target <;> rfl
  have merged : mergeTargets document discovered mode [target] = _ :=
    mergeTargets_eq discovered mode fun other member => List.mem_singleton.mp member ▸ admits
  rw [merged, alone]
  simp only [changesOf, List.flatMap_cons, List.flatMap_nil, List.append_nil]
  rfl

/-- A merge depends on which lists are named, not on their order or on repetitions. -/
theorem mergeTargets_congr_targets (document : Document) {one other : List Target}
    (same : ∀ target, target ∈ one ↔ target ∈ other) :
    mergeTargets document discovered mode one = mergeTargets document discovered mode other := by
  have named : Target.all.filter (· ∈ one) = Target.all.filter (· ∈ other) := by
    apply List.filter_congr
    intro target _
    exact decide_eq_decide.mpr (same target)
  unfold mergeTargets
  rw [named]

/-- A list keeps its outcome while another one is written. -/
theorem outcomeOf_commit_ne {target other : Target} (admits : document.Admits target)
    (items : List Node) (apart : other ≠ target) :
    outcomeOf (commit document target items) discovered mode other =
      outcomeOf document discovered mode other := by
  have untouched : (commit document target items).get? other.sectionKey =
      document.get? other.sectionKey :=
    get?_commit_ne admits items fun same => apart (Target.sectionKey_injective same)
  have list : (commit document target items).items? other = document.items? other := by
    unfold items?
    rw [targetNode?_congr untouched]
  unfold outcomeOf
  rw [list]

/-- Lists merged one by one are written one by one, each with the outcome that it has in the
document before the first merge. -/
theorem mergeEach_eq {targets : List Target} (admits : ∀ target ∈ targets, document.Admits target)
    (distinct : targets.Nodup) :
    mergeEach document discovered mode targets =
      .ok (commitAll document (outcomes document discovered mode targets),
        changesOf document discovered mode targets) := by
  induction targets generalizing document with
  | nil => rfl
  | cons target rest ih =>
    have first : document.Admits target := admits target List.mem_cons_self
    obtain ⟨fresh, distinctRest⟩ := List.nodup_cons.mp distinct
    let next := commit document target (outcomeOf document discovered mode target).items
    have apart : ∀ other ∈ rest, other ≠ target := by
      rintro other member rfl
      exact fresh member
    have admitsRest : ∀ other ∈ rest, next.Admits other := by
      intro other member
      refine (admits other (List.mem_cons_of_mem target member)).congr (Eq.symm ?_)
      apply get?_commit_ne first
      exact fun same => apart other member (Target.sectionKey_injective same)
    have kept : ∀ other ∈ rest,
        outcomeOf next discovered mode other = outcomeOf document discovered mode other :=
      fun other member => outcomeOf_commit_ne discovered mode first _ (apart other member)
    have later : outcomes next discovered mode rest = outcomes document discovered mode rest :=
      List.map_congr_left fun other member => congrArg (Prod.mk other) (kept other member)
    have laterChanges :
        changesOf next discovered mode rest = changesOf document discovered mode rest :=
      List.flatMap_congr fun other member => congrArg Outcome.changes (kept other member)
    have done := ih admitsRest distinctRest
    rw [later, laterChanges] at done
    simp only [mergeEach, mergeTargets_single discovered mode first]
    change Except.map _ (mergeEach next discovered mode rest) = _
    rw [done]
    rfl

/-- Lists written in another order are the same lists. -/
theorem sameButNewOrder_of_perm {targets order : List Target}
    (admits : ∀ target ∈ targets, document.Admits target) (distinct : targets.Nodup)
    (perm : order.Perm targets) :
    SameButNewOrder document (commitAll document (outcomes document discovered mode targets))
      (commitAll document (outcomes document discovered mode order)) := by
  have one : Committed document (commitAll document (outcomes document discovered mode targets))
      (outcomes document discovered mode targets) := by
    apply committed_commitAll (admits_of_mem_outcomes discovered mode admits)
    rwa [map_fst_outcomes]
  have other : Committed document (commitAll document (outcomes document discovered mode order))
      (outcomes document discovered mode order) := by
    apply committed_commitAll
    · exact admits_of_mem_outcomes discovered mode fun target member =>
        admits target (perm.mem_iff.mp member)
    · rw [map_fst_outcomes]
      exact perm.nodup_iff.mpr distinct
  have entries : (outcomes document discovered mode order).Perm
      (outcomes document discovered mode targets) := perm.map _
  constructor
  · intro key
    by_cases named : ∃ entry ∈ outcomes document discovered mode targets, entry.1.sectionKey = key
    · obtain ⟨⟨target, outcome⟩, member, rfl⟩ := named
      rw [one.lists target outcome member, other.lists target outcome (entries.mem_iff.mpr member)]
    · have absent : ∀ entry ∈ outcomes document discovered mode targets,
          entry.1.sectionKey ≠ key := fun entry member same => named ⟨entry, member, same⟩
      rw [one.others key absent, other.others key fun entry member =>
        absent entry (entries.mem_iff.mp member)]
  · refine ⟨_, _, one.keys, other.keys, ?_⟩
    exact ((entries.map Prod.fst).filter _).map _

/-- The changes of one list do not depend on the order of the lists. -/
theorem ofTarget_changesOf {targets : List Target} (distinct : targets.Nodup) (target : Target) :
    (changesOf document discovered mode targets).ofTarget target =
      if target ∈ targets then (outcomeOf document discovered mode target).changes else [] :=
  ofTarget_flatMap (fun _ _ member => target_of_mem_reconcile member) distinct target

end Merges

/-- A merge of several lists that succeeds is told by the set of lists. Merging them one by one in
the order of their categories gives the same document and the same log; in any other order it gives
the same changes to each list, and the same document but for the order of new sections. -/
theorem merge_one_by_one {document after : Document} {discovered : List Component} {mode : Mode}
    {targets : List Target} {log : ChangeLog}
    (done : mergeTargets document discovered mode targets = .ok (after, log)) :
    (∀ others, (∀ target, target ∈ others ↔ target ∈ targets) →
      mergeTargets document discovered mode others = .ok (after, log)) ∧
    mergeEach document discovered mode (Target.all.filter (· ∈ targets)) = .ok (after, log) ∧
    ∀ order : List Target, order.Perm (Target.all.filter (· ∈ targets)) →
      ∃ after' log', mergeEach document discovered mode order = .ok (after', log') ∧
        SameButNewOrder document after after' ∧
        ∀ target, log'.ofTarget target = log.ofTarget target := by
  have admits : ∀ target ∈ targets, document.Admits target := admits_of_mergeTargets done
  let named := Target.all.filter (· ∈ targets)
  have admitsNamed : ∀ target ∈ named, document.Admits target := fun target member =>
    admits target (of_decide_eq_true (List.mem_filter.mp member).2)
  have distinct : named.Nodup := Target.nodup_all.filter _
  have atOnce := mergeTargets_eq discovered mode admits
  obtain ⟨rfl, rfl⟩ := Prod.mk.inj (Except.ok.inj (atOnce.symm.trans done))
  refine ⟨fun others same => ?_, mergeEach_eq discovered mode admitsNamed distinct,
    fun order perm => ?_⟩
  · rw [mergeTargets_congr_targets discovered mode document same]
    exact atOnce
  · have distinctOrder : order.Nodup := perm.nodup_iff.mpr distinct
    have admitsOrder : ∀ target ∈ order, document.Admits target := fun target member =>
      admitsNamed target (perm.mem_iff.mp member)
    refine ⟨_, _, mergeEach_eq discovered mode admitsOrder distinctOrder,
      sameButNewOrder_of_perm discovered mode admitsNamed distinct perm, fun target => ?_⟩
    rw [ofTarget_changesOf discovered mode distinctOrder,
      ofTarget_changesOf discovered mode distinct]
    simp only [perm.mem_iff]
    rfl

def kernelDocument : Document := ⟨⟨[("Kernel", .emptyDictionary)]⟩⟩

def foundTables : List Component :=
  [{ relativePath := "SSDT-EC.aml", category := .acpi },
    { relativePath := "Shell.efi", category := .tool }]

/-- The sections of two lists are created; merged the other way round they change places. -/
theorem kernelDocument_one_by_one :
    ∃ after log after' log',
      mergeTargets kernelDocument foundTables .additive
        [.miscTools, .acpiAdd, .kernelAdd, .miscTools] = .ok (after, log) ∧
      mergeEach kernelDocument foundTables .additive [.acpiAdd, .kernelAdd, .miscTools] =
        .ok (after, log) ∧
      mergeEach kernelDocument foundTables .additive [.miscTools, .kernelAdd, .acpiAdd] =
        .ok (after', log') ∧
      after.root.keys = ["Kernel", "ACPI", "Misc"] ∧
      after'.root.keys = ["Kernel", "Misc", "ACPI"] ∧
      SameButNewOrder kernelDocument after after' ∧
      ∀ target, log'.ofTarget target = log.ofTarget target := by
  have admits : ∀ target, kernelDocument.Admits target := by
    intro target
    have read : ∃ items, existingItems kernelDocument target = .ok items := by
      cases target <;> exact ⟨_, rfl⟩
    obtain ⟨items, found⟩ := read
    exact admits_of_existingItems found
  have done : mergeTargets kernelDocument foundTables .additive
      [.miscTools, .acpiAdd, .kernelAdd, .miscTools] = _ :=
    mergeTargets_eq foundTables .additive fun target _ => admits target
  obtain ⟨-, inOrder, anyOrder⟩ := merge_one_by_one done
  obtain ⟨after', log', backwards, alike, changes⟩ :=
    anyOrder [.miscTools, .kernelAdd, .acpiAdd] (by decide)
  refine ⟨_, _, after', log', done, inOrder, backwards, rfl, ?_, alike, changes⟩
  have written : mergeEach kernelDocument foundTables .additive
      [.miscTools, .kernelAdd, .acpiAdd] = _ :=
    mergeEach_eq foundTables .additive (fun target _ => admits target) (by decide)
  obtain ⟨rfl, -⟩ := Prod.mk.inj (Except.ok.inj (written.symm.trans backwards))
  rfl

end BootSnapshot.Merge
