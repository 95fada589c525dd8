import BootSnapshot.Finding.Structure
import BootSnapshot.Proofs.Merge.Interference
import BootSnapshot.Proofs.Merge.Sequence

set_option autoImplicit false

namespace BootSnapshot

open Document Merge

namespace Finding

def isWrongKind : Finding → Bool
  | .sectionNotDictionary _ _ => true
  | .listNotArray _ _ => true
  | _ => false

/-- How a merge refuses a list if a finding lies at the list or at its section. -/
def refusal? (target : Target) (finding : Finding) : Option MergeError :=
  if finding.isWrongKind then
    if finding.path = [.key target.sectionKey] then
      some (.containerNotDictionary target.sectionKey)
    else if finding.path = target.path then some (.targetNotSequence target)
    else none
  else none

def affects (document : Document) (target : Target) : Bool :=
  (structural document).any fun finding => (refusal? target finding).isSome

/-- What there is to be found once all lists are in place: a section that was missing may lack its
other usual subsections, and no list is missing. -/
def onceMerged : Finding → List Finding
  | .sectionMissing key =>
    match Target.ofSectionKey? key with
    | some target =>
      ((recommendedKeys key).filter (· ≠ target.listKey)).map (.subsectionMissing key)
    | none => [.sectionMissing key]
  | .subsectionMissing key subsection =>
    if (Target.ofSectionKey? key).any (·.listKey = subsection) then []
    else [.subsectionMissing key subsection]
  | other => [other]

theorem Target.sectionKey_mem_requiredKeys (target : Target) :
    target.sectionKey ∈ requiredKeys := by
  cases target <;> decide

theorem sectionKey_of_ofSectionKey? {key : String} {target : Target}
    (found : Target.ofSectionKey? key = some target) : target.sectionKey = key := by
  have own : decide (target.sectionKey = key) = true :=
    List.find?_some (p := fun target : Target => target.sectionKey = key) found
  exact of_decide_eq_true own

/-- A section with something to be found about it is missing, incomplete or no dictionary. -/
theorem mem_sectionFindings {document : Document} {key : String} {finding : Finding} :
    finding ∈ sectionFindings document key ↔
      (document.get? key = none ∧ finding = .sectionMissing key) ∨
      (∃ children subsection, document.get? key = some (.dictionary children) ∧
        subsection ∈ recommendedKeys key ∧ children.contains subsection = false ∧
        finding = .subsectionMissing key subsection) ∨
      ∃ node, document.get? key = some node ∧ node.dictionary? = none ∧
        finding = .sectionNotDictionary key node.kind := by
  unfold sectionFindings
  cases found : document.get? key with
  | none =>
    simp only [List.mem_singleton, true_and, reduceCtorEq, false_and, exists_false, or_false]
  | some node =>
    cases node with
    | dictionary children =>
      simp only [reduceCtorEq, false_and, false_or, Option.some_inj, Node.dictionary.injEq]
      constructor
      · intro member
        obtain ⟨subsection, inside, rfl⟩ := List.mem_map.mp member
        obtain ⟨usual, absent⟩ := List.mem_filter.mp inside
        rw [Bool.not_eq_true'] at absent
        exact Or.inl ⟨children, subsection, rfl, usual, absent, rfl⟩
      · rintro (⟨_, subsection, rfl, usual, absent, rfl⟩ | ⟨node, rfl, other, -⟩)
        · refine List.mem_map_of_mem (List.mem_filter.mpr ⟨usual, ?_⟩)
          rw [absent, Bool.not_false]
        · cases other
    | sequence items =>
      simp only [reduceCtorEq, false_and, false_or, Option.some_inj, exists_false,
        exists_eq_left', Node.dictionary?, true_and, List.mem_singleton]
    | scalar content =>
      simp only [reduceCtorEq, false_and, false_or, Option.some_inj, exists_false,
        exists_eq_left', Node.dictionary?, true_and, List.mem_singleton]

theorem mem_listFindings {document : Document} {target : Target} {finding : Finding} :
    finding ∈ listFindings document target ↔
      ∃ node, document.targetNode? target = some node ∧ node.sequence? = none ∧
        finding = .listNotArray target node.kind := by
  unfold listFindings
  cases found : document.targetNode? target with
  | none => simp only [List.not_mem_nil, reduceCtorEq, false_and, exists_false]
  | some node =>
    cases node with
    | sequence items =>
      simp only [List.not_mem_nil, Option.some_inj, exists_eq_left', Node.sequence?, reduceCtorEq,
        false_and]
    | dictionary children =>
      simp only [List.mem_singleton, Option.some_inj, exists_eq_left', Node.sequence?, true_and]
    | scalar content =>
      simp only [List.mem_singleton, Option.some_inj, exists_eq_left', Node.sequence?, true_and]

theorem mem_structural {document : Document} {finding : Finding} :
    finding ∈ structural document ↔
      (∃ key ∈ requiredKeys, finding ∈ sectionFindings document key) ∨
      ∃ target, finding ∈ listFindings document target := by
  simp only [structural, List.mem_append, List.mem_flatMap, Target.mem_all, true_and]

theorem refusal?_sectionNotDictionary (target : Target) (key : String) (found : Kind) :
    refusal? target (.sectionNotDictionary key found) =
      if key = target.sectionKey then some (.containerNotDictionary target.sectionKey)
      else none := by
  by_cases same : key = target.sectionKey
  · simp only [refusal?, isWrongKind, path, same, ↓reduceIte]
  · simp only [refusal?, isWrongKind, path, Target.path, List.cons.injEq, Segment.key.injEq, same,
      reduceCtorEq, and_false, and_true, ↓reduceIte]

theorem refusal?_listNotArray (target other : Target) (found : Kind) :
    refusal? target (.listNotArray other found) =
      if other = target then some (.targetNotSequence target) else none := by
  by_cases same : other = target
  · simp only [refusal?, isWrongKind, path, Target.path, same, List.cons.injEq, reduceCtorEq,
      and_false, ↓reduceIte]
  · have apart : ¬ other.sectionKey = target.sectionKey :=
      fun keys => same (Target.sectionKey_injective keys)
    simp only [refusal?, isWrongKind, path, Target.path, List.cons.injEq, Segment.key.injEq,
      reduceCtorEq, and_false, apart, false_and, same, ↓reduceIte]

/-- A merge cannot read a list exactly if a container of the list is found to be of the wrong kind,
and it tells so. -/
theorem existingItems_error_iff {document : Document} {target : Target} {error : MergeError} :
    existingItems document target = .error error ↔
      ∃ finding ∈ structural document, refusal? target finding = some error := by
  constructor
  · intro failed
    unfold existingItems at failed
    split at failed
    · cases failed
    · rename_i children top
      split at failed
      · cases failed
      · cases failed
      · rename_i node other list
        obtain rfl := Except.error.inj failed
        have place : document.targetNode? target = some node := by
          simp only [targetNode?, top, Option.bind_some, Node.dictionary?, list]
        have shape : node.sequence? = none := by
          cases node with
          | sequence items => exact absurd rfl (other items)
          | _ => rfl
        refine ⟨.listNotArray target node.kind, ?_, ?_⟩
        · exact mem_structural.mpr (Or.inr ⟨target, mem_listFindings.mpr ⟨node, place, shape, rfl⟩⟩)
        · rw [refusal?_listNotArray, if_pos rfl]
    · rename_i node other top
      obtain rfl := Except.error.inj failed
      have shape : node.dictionary? = none := by
        cases node with
        | dictionary children => exact absurd rfl (other children)
        | _ => rfl
      refine ⟨.sectionNotDictionary target.sectionKey node.kind, ?_, ?_⟩
      · refine mem_structural.mpr (Or.inl ⟨_, Target.sectionKey_mem_requiredKeys target, ?_⟩)
        exact mem_sectionFindings.mpr (Or.inr (Or.inr ⟨node, top, shape, rfl⟩))
      · rw [refusal?_sectionNotDictionary, if_pos rfl]
  · rintro ⟨finding, member, refused⟩
    rcases mem_structural.mp member with ⟨key, -, inside⟩ | ⟨other, inside⟩
    · rcases mem_sectionFindings.mp inside with
        ⟨-, rfl⟩ | ⟨children, subsection, -, -, -, rfl⟩ | ⟨node, top, shape, rfl⟩
      · cases refused
      · cases refused
      · rw [refusal?_sectionNotDictionary] at refused
        split at refused
        · rename_i same
          obtain rfl := Option.some_inj.mp refused
          subst same
          unfold existingItems
          rw [top]
          cases node with
          | dictionary children => cases shape
          | sequence items => rfl
          | scalar content => rfl
        · cases refused
    · obtain ⟨node, place, shape, rfl⟩ := mem_listFindings.mp inside
      rw [refusal?_listNotArray] at refused
      split at refused
      · rename_i same
        obtain rfl := Option.some_inj.mp refused
        subst same
        obtain ⟨children, top, list⟩ := Option.bind_eq_some_iff.mp place
        obtain ⟨holder, present, dictionary⟩ := Option.bind_eq_some_iff.mp top
        obtain rfl := Node.eq_of_dictionary? dictionary
        unfold existingItems
        rw [present]
        cases node with
        | sequence items => cases shape
        | dictionary inner => simp only [list]
        | scalar content => simp only [list]
      · cases refused

theorem affects_iff {document : Document} {target : Target} :
    affects document target = true ↔ ∃ error, existingItems document target = .error error := by
  simp only [affects, List.any_eq_true, Option.isSome_iff_exists, existingItems_error_iff]
  constructor
  · rintro ⟨finding, member, error, refused⟩
    exact ⟨error, finding, member, refused⟩
  · rintro ⟨error, finding, member, refused⟩
    exact ⟨finding, member, error, refused⟩

/-- Staging lists fails at the first of them that is affected. -/
theorem stage_error {document : Document} {discovered : List Component} {mode : Mode}
    {targets : List Target} {error : MergeError}
    (failed : stage document discovered mode targets = .error error) :
    ∃ target finding, targets.find? (affects document) = some target ∧
      finding ∈ structural document ∧ refusal? target finding = some error := by
  induction targets with
  | nil => cases failed
  | cons target rest ih =>
    unfold stage at failed
    cases read : existingItems document target with
    | error error' =>
      rw [read] at failed
      obtain rfl := Except.error.inj failed
      obtain ⟨finding, member, refused⟩ := existingItems_error_iff.mp read
      have first : affects document target = true := affects_iff.mpr ⟨error', read⟩
      exact ⟨target, finding, by simp only [List.find?_cons, first], member, refused⟩
    | ok existing =>
      rw [read] at failed
      have passes : affects document target = false := by
        apply Bool.eq_false_iff.mpr
        intro affected
        obtain ⟨error', refused⟩ := affects_iff.mp affected
        rw [read] at refused
        cases refused
      cases later : stage document discovered mode rest with
      | ok staged =>
        rw [later] at failed
        cases failed
      | error error' =>
        rw [later] at failed
        obtain rfl : error' = error := Except.error.inj failed
        obtain ⟨affected, finding, first, member, refused⟩ := ih later
        exact ⟨affected, finding, by simp only [List.find?_cons, passes, first], member, refused⟩

section Merged

variable {document after : Document} {discovered : List Component} {mode : Mode} {log : ChangeLog}

/-- What a merge of all lists leaves under a section's key. -/
theorem get?_of_merge (done : merge document discovered mode = .ok (after, log)) (key : String) :
    match Target.ofSectionKey? key with
    | some target => ∃ items, after.get? key = some (.dictionary
        ((document.sectionOf target).insert target.listKey (.sequence items)))
    | none => after.get? key = document.get? key := by
  have admits : ∀ target ∈ Target.all, document.Admits target := admits_of_mergeTargets done
  have all : Target.all.filter (· ∈ Target.all) = Target.all := by decide
  have atOnce : mergeTargets document discovered mode Target.all = _ :=
    mergeTargets_eq discovered mode admits
  obtain ⟨rfl, -⟩ := Prod.mk.inj (Except.ok.inj (done.symm.trans atOnce))
  rw [all]
  have committed : Committed document
      (commitAll document (outcomes document discovered mode Target.all))
      (outcomes document discovered mode Target.all) := by
    apply committed_commitAll (admits_of_mem_outcomes discovered mode admits)
    rw [map_fst_outcomes]
    exact Target.nodup_all
  cases found : Target.ofSectionKey? key with
  | some target =>
    obtain rfl := sectionKey_of_ofSectionKey? found
    exact ⟨_, committed.lists target _ (List.mem_map_of_mem target.mem_all)⟩
  | none =>
    refine committed.others key fun entry _ same => ?_
    exact List.find?_eq_none.mp found entry.1 entry.1.mem_all (decide_eq_true same)

theorem contains_insert (children : Dictionary Node) (key other : String) (node : Node) :
    (children.insert key node).contains other =
      (decide (other = key) || children.contains other) := by
  by_cases same : other = key
  · simp only [same, Dictionary.contains, Dictionary.get?_insert_self, Option.isSome_some,
      decide_true, Bool.true_or]
  · simp only [Dictionary.contains, Dictionary.get?_insert_ne children node same, same,
      decide_false, Bool.false_or]

theorem flatMap_onceMerged_missing (target : Target) (subsections : List String) :
    (subsections.map (subsectionMissing target.sectionKey)).flatMap onceMerged =
      (subsections.filter (· ≠ target.listKey)).map (subsectionMissing target.sectionKey) := by
  induction subsections with
  | nil => rfl
  | cons subsection rest ih =>
    rw [List.map_cons, List.flatMap_cons, ih]
    by_cases own : target.listKey = subsection
    · simp only [onceMerged, Target.ofSectionKey?_sectionKey, Option.any_some, own, decide_true,
        ↓reduceIte, List.nil_append, List.filter_cons, ne_eq, not_true_eq_false, decide_false,
        Bool.false_eq_true]
    · have apart : subsection ≠ target.listKey := Ne.symm own
      simp only [onceMerged, Target.ofSectionKey?_sectionKey, Option.any_some, own, decide_false,
        Bool.false_eq_true, ↓reduceIte, List.filter_cons, apart, ne_eq, not_false_eq_true,
        decide_true, List.map_cons, List.singleton_append]

/-- What is found about a section after a merge follows from what was found before. -/
theorem sectionFindings_of_merge (done : merge document discovered mode = .ok (after, log))
    (key : String) :
    sectionFindings after key = (sectionFindings document key).flatMap onceMerged := by
  have written := get?_of_merge done key
  cases found : Target.ofSectionKey? key with
  | none =>
    rw [found] at written
    have stays : ∀ finding ∈ sectionFindings document key, onceMerged finding = [finding] := by
      intro finding member
      rcases mem_sectionFindings.mp member with
        ⟨-, rfl⟩ | ⟨children, subsection, -, -, -, rfl⟩ | ⟨node, -, -, rfl⟩
      · simp only [onceMerged, found]
      · simp only [onceMerged, found, Option.any_none, Bool.false_eq_true, ↓reduceIte]
      · rfl
    rw [List.flatMap_congr stays, List.flatMap_singleton']
    unfold sectionFindings
    rw [written]
  | some target =>
    obtain rfl := sectionKey_of_ofSectionKey? found
    rw [found] at written
    obtain ⟨items, written⟩ := written
    have admits : document.Admits target := admits_of_mergeTargets done target target.mem_all
    unfold sectionFindings
    rw [written]
    cases top : document.get? target.sectionKey with
    | none =>
      have empty : document.sectionOf target = .empty := by
        simp only [sectionOf, top, Option.bind_none, Option.getD_none]
      simp only [empty, List.flatMap_cons, List.flatMap_nil, List.append_nil, onceMerged,
        Target.ofSectionKey?_sectionKey]
      congr 1
      apply List.filter_congr
      intro subsection _
      have absent : Dictionary.empty.contains (α := Node) subsection = false := rfl
      rw [contains_insert, absent, Bool.or_false, decide_not]
    | some node =>
      obtain ⟨children, rfl⟩ := admits.dictionary node top
      simp only [sectionOf_of_get? top, flatMap_onceMerged_missing, List.filter_filter]
      congr 1
      apply List.filter_congr
      intro subsection _
      rw [contains_insert, Bool.not_or, decide_not]

theorem listFindings_of_admits {document : Document} {target : Target}
    (admits : document.Admits target) : listFindings document target = [] := by
  apply List.eq_nil_iff_forall_not_mem.mpr
  intro finding member
  obtain ⟨node, place, shape, -⟩ := mem_listFindings.mp member
  obtain ⟨items, rfl⟩ := admits.sequence node place
  cases shape

theorem structural_of_merge (done : merge document discovered mode = .ok (after, log)) :
    structural after = (structural document).flatMap onceMerged := by
  have admits : ∀ target ∈ Target.all, document.Admits target := admits_of_mergeTargets done
  have merged := merged_of_mergeTargets done
  have before : Target.all.flatMap (listFindings document) = [] :=
    List.flatMap_eq_nil_iff.mpr fun target member => listFindings_of_admits (admits target member)
  have later : Target.all.flatMap (listFindings after) = [] :=
    List.flatMap_eq_nil_iff.mpr fun target member =>
      listFindings_of_admits (admits_of_items? (merged.lists target member))
  unfold structural
  rw [before, later, List.append_nil, List.append_nil, List.flatMap_assoc]
  exact List.flatMap_congr fun key _ => sectionFindings_of_merge done key

theorem key_of_mem_sectionFindings {document : Document} {key : String} {finding : Finding}
    (member : finding ∈ sectionFindings document key) : finding.path.head? = some (.key key) := by
  rcases mem_sectionFindings.mp member with
    ⟨-, rfl⟩ | ⟨children, subsection, -, -, -, rfl⟩ | ⟨node, -, -, rfl⟩ <;> rfl

/-- After a merge, what is found below the section of a list is that another usual subsection of
it is missing. -/
theorem missing_of_merge (done : merge document discovered mode = .ok (after, log))
    {target : Target} {finding : Finding} (member : finding ∈ structural after)
    (below : [.key target.sectionKey] <+: finding.path) :
    ∃ subsection ∈ recommendedKeys target.sectionKey, subsection ≠ target.listKey ∧
      finding = .subsectionMissing target.sectionKey subsection := by
  have merged := merged_of_mergeTargets done
  have top : finding.path.head? = some (.key target.sectionKey) := by
    obtain ⟨rest, same⟩ := below
    rw [← same]
    rfl
  rcases mem_structural.mp member with ⟨key, -, inside⟩ | ⟨other, inside⟩
  · obtain rfl : target.sectionKey = key := by
      have own := key_of_mem_sectionFindings inside
      rw [top, Option.some_inj, Segment.key.injEq] at own
      exact own
    have written := get?_of_merge done target.sectionKey
    rw [Target.ofSectionKey?_sectionKey] at written
    obtain ⟨items, written⟩ := written
    rcases mem_sectionFindings.mp inside with
      ⟨absent, -⟩ | ⟨children, subsection, found, usual, missing, rfl⟩ | ⟨node, found, shape, -⟩
    · rw [written] at absent
      cases absent
    · rw [written, Option.some_inj, Node.dictionary.injEq] at found
      subst found
      rw [contains_insert, Bool.or_eq_false_iff] at missing
      exact ⟨subsection, usual, of_decide_eq_false missing.1, rfl⟩
    · rw [written] at found
      obtain rfl := Option.some_inj.mp found
      cases shape
  · have silent := listFindings_of_admits (admits_of_items? (merged.lists other other.mem_all))
    rw [silent] at inside
    cases inside

end Merged

end Finding

namespace Merge

open Finding

/-- A merge fails exactly if a container of a list is found to be of the wrong kind; its error is
that of the first list in the order of categories for which there is such a finding. After a merge
that succeeds no error is found at the sections of the lists or below them, and no list is found
missing; what is found at all is what was found before, except that a section which was missing may
lack its other usual subsections. -/
theorem merge_agrees_with_structure (document : Document) (discovered : List Component)
    (mode : Mode) :
    match merge document discovered mode with
    | .error error =>
      ∃ target finding, Target.all.find? (affects document) = some target ∧
        finding ∈ structural document ∧ refusal? target finding = some error
    | .ok (after, _) =>
      (∀ target, affects document target = false) ∧
      (∀ finding ∈ structural after, ∀ target : Target, [.key target.sectionKey] <+: finding.path →
        finding.severity = .warning ∧
          finding ≠ .subsectionMissing target.sectionKey target.listKey) ∧
      structural after = (structural document).flatMap onceMerged := by
  cases done : merge document discovered mode with
  | error error =>
    unfold merge mergeTargets at done
    split at done
    · rename_i error' failed
      obtain rfl := Except.error.inj done
      exact stage_error failed
    · cases done
  | ok result =>
    obtain ⟨after, log⟩ := result
    refine ⟨fun target => ?_, fun finding member target below => ?_, structural_of_merge done⟩
    · apply Bool.eq_false_iff.mpr
      intro affected
      obtain ⟨error, failed⟩ := affects_iff.mp affected
      rw [existingItems_of_admits (admits_of_mergeTargets done target target.mem_all)] at failed
      cases failed
    · obtain ⟨subsection, -, other, rfl⟩ := missing_of_merge done member below
      refine ⟨rfl, fun same => other ?_⟩
      exact (Finding.subsectionMissing.inj same).2

end Merge
end BootSnapshot
