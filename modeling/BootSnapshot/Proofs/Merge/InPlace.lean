import BootSnapshot.Proofs.Merge.Commit

set_option autoImplicit false

namespace BootSnapshot.Merge

open Document

/-- Steps over a document that is changed in place. A failure keeps the changes made before it. -/
abbrev Session := ExceptT MergeError (StateM Document)

namespace Session

def existingItems (target : Target) : Session (List Node) := do
  match Merge.existingItems (← get) target with
  | .ok items => return items
  | .error error => throw error

def stage (discovered : List Component) (mode : Mode) :
    List Target → Session (List (Target × Outcome))
  | [] => return []
  | target :: rest => do
    let existing ← existingItems target
    let outcome := reconcile target existing (ofCategory discovered target.category) mode
    let others ← stage discovered mode rest
    return (target, outcome) :: others

def commit : List (Target × Outcome) → Session Unit
  | [] => return
  | (target, outcome) :: rest => do
    modify fun document => Merge.commit document target outcome.items
    commit rest

def merge (discovered : List Component) (mode : Mode) (targets : List Target) :
    Session ChangeLog := do
  let staged ← stage discovered mode (Target.all.filter (· ∈ targets))
  commit staged
  return staged.flatMap fun (_, outcome) => outcome.changes

/-- What a session ends with, and the document that it leaves. -/
def on {α : Type} (session : Session α) (document : Document) : Except MergeError α × Document :=
  (ExceptT.run session).run document

theorem on_bind_of_ok {α β : Type} {first : Session α} (next : α → Session β)
    {document after : Document} {value : α} (done : first.on document = (.ok value, after)) :
    (first >>= next).on document = (next value).on after := by
  simp only [on, StateT.run, ExceptT.run] at done ⊢
  simp only [bind, ExceptT.bind, ExceptT.mk, StateT.bind, done, ExceptT.bindCont]

theorem on_bind_of_error {α β : Type} {first : Session α} (next : α → Session β)
    {document after : Document} {error : MergeError}
    (failed : first.on document = (.error error, after)) :
    (first >>= next).on document = (.error error, after) := by
  simp only [on, StateT.run, ExceptT.run] at failed ⊢
  simp only [bind, ExceptT.bind, ExceptT.mk, StateT.bind, failed, ExceptT.bindCont]
  rfl

theorem on_existingItems (target : Target) (document : Document) :
    (existingItems target).on document = (Merge.existingItems document target, document) := by
  have read : (existingItems target).on document = (match Merge.existingItems document target with
      | .ok items => (return items : Session (List Node))
      | .error error => throw error).on document := rfl
  rw [read]
  cases Merge.existingItems document target <;> rfl

/-- Staging reads and writes nothing. -/
theorem on_stage (discovered : List Component) (mode : Mode) (targets : List Target)
    (document : Document) :
    (stage discovered mode targets).on document =
      (Merge.stage document discovered mode targets, document) := by
  induction targets with
  | nil => rfl
  | cons target rest ih =>
    unfold stage Merge.stage
    cases read : Merge.existingItems document target with
    | error error => exact on_bind_of_error _ (read ▸ on_existingItems target document)
    | ok items =>
      rw [on_bind_of_ok _ (read ▸ on_existingItems target document)]
      cases staged : Merge.stage document discovered mode rest with
      | error error => exact on_bind_of_error _ (staged ▸ ih)
      | ok others =>
        rw [on_bind_of_ok _ (staged ▸ ih)]
        rfl

theorem on_commit (staged : List (Target × Outcome)) (document : Document) :
    (commit staged).on document = (.ok (), commitAll document staged) := by
  induction staged generalizing document with
  | nil => rfl
  | cons entry rest ih => exact ih (Merge.commit document entry.1 entry.2.items)

/-- A session ends with the merge's result; the document is the merged one, or the old one if the
merge fails. -/
theorem on_merge (discovered : List Component) (mode : Mode) (targets : List Target)
    (document : Document) :
    (merge discovered mode targets).on document =
      match mergeTargets document discovered mode targets with
      | .ok (after, log) => (.ok log, after)
      | .error error => (.error error, document) := by
  unfold merge mergeTargets
  have staging := on_stage discovered mode (Target.all.filter (· ∈ targets)) document
  cases staged : Merge.stage document discovered mode (Target.all.filter (· ∈ targets)) with
  | error error => exact on_bind_of_error _ (staged ▸ staging)
  | ok outcomes =>
    rw [on_bind_of_ok _ (staged ▸ staging), on_bind_of_ok _ (on_commit outcomes document)]
    rfl

end Session

/-- What a merge of the given lists may make of a document, and what it must. -/
structure Merged (document after : Document) (discovered : List Component) (mode : Mode)
    (targets : List Target) : Prop where
  /-- Every named list is what reconciling the list of the old document gives. -/
  lists : ∀ target ∈ targets, after.items? target = some
    (reconcile target ((document.items? target).getD []) (ofCategory discovered target.category)
      mode).items
  /-- Keys stay in their places; missing sections of named lists come last, in a fixed order. -/
  keys : after.root.keys = document.root.keys ++
    ((Target.all.filter (· ∈ targets)).filter fun target =>
      !document.root.contains target.sectionKey).map Target.sectionKey
  places : Dictionary.KeptBut (fun key => ∃ target ∈ targets, target.sectionKey = key)
    document.root after.root
  /-- So do the keys of a section; a missing list comes last. -/
  sections : ∀ target ∈ targets, ∃ children,
    after.get? target.sectionKey = some (.dictionary children) ∧
    children.keys = (document.sectionOf target).keys ++
      (if (document.sectionOf target).contains target.listKey then [] else [target.listKey]) ∧
    Dictionary.KeptBut (target.listKey = ·) (document.sectionOf target) children
  unnamed : ∀ target, target ∉ targets →
    after.get? target.sectionKey = document.get? target.sectionKey

theorem mergeTargets_of_admits {document : Document} (discovered : List Component) (mode : Mode)
    {targets : List Target} (admits : ∀ target ∈ targets, document.Admits target) :
    ∃ after log, mergeTargets document discovered mode targets = .ok (after, log) ∧
      Merged document after discovered mode targets := by
  let named := Target.all.filter (· ∈ targets)
  have mem_named {target : Target} : target ∈ named ↔ target ∈ targets := by
    simp only [named, List.mem_filter, Target.mem_all, decide_eq_true_eq, true_and]
  let staged := named.map fun target => (target, outcomeOf document discovered mode target)
  have mem_staged {target : Target} {outcome : Outcome} (member : (target, outcome) ∈ staged) :
      target ∈ targets := by
    obtain ⟨other, inside, same⟩ := List.mem_map.mp member
    exact (Prod.mk.inj same).1 ▸ mem_named.mp inside
  have fst_staged : staged.map Prod.fst = named := by
    simp only [staged, List.map_map]
    exact List.map_id'' (fun _ => rfl) named
  have staging : stage document discovered mode named = .ok staged :=
    stage_of_admits discovered mode fun target member => admits target (mem_named.mp member)
  have committed : Committed document (commitAll document staged) staged :=
    committed_commitAll (fun entry member => admits entry.1 (mem_staged member))
      (fst_staged ▸ Target.nodup_all.filter _)
  have own {target : Target} (member : target ∈ targets) :
      (commitAll document staged).get? target.sectionKey = some (.dictionary
        ((document.sectionOf target).insert target.listKey
          (.sequence (outcomeOf document discovered mode target).items))) :=
    committed.lists _ _ (List.mem_map_of_mem (mem_named.mpr member))
  refine ⟨commitAll document staged, staged.flatMap fun (_, outcome) => outcome.changes, ?_, ?_⟩
  · unfold mergeTargets
    rw [staging]
  · refine ⟨fun target member => ?_, ?_, ?_, fun target member => ?_, fun target absent => ?_⟩
    · exact items?_of_get? (own member) (Dictionary.get?_insert_self _ _ _)
    · rw [committed.keys, fst_staged]
    · intro index key value stays found
      refine committed.places index key value ?_ found
      rintro ⟨⟨target, outcome⟩, member, same⟩
      exact stays ⟨target, mem_staged member, same⟩
    · exact ⟨_, own member, Dictionary.keys_insert _ _ _,
        (Dictionary.KeptBut.refl _ _).insert rfl _⟩
    · refine committed.others _ fun ⟨other, outcome⟩ member same => absent ?_
      exact Target.sectionKey_injective same ▸ mem_staged member

theorem mergeTargets_of_refuses {document : Document} (discovered : List Component) (mode : Mode)
    {targets : List Target} (refuses : ∃ target ∈ targets, ¬ document.Admits target) :
    ∃ error, mergeTargets document discovered mode targets = .error error := by
  have named : ∃ target ∈ Target.all.filter (· ∈ targets), ¬ document.Admits target := by
    obtain ⟨target, member, refused⟩ := refuses
    refine ⟨target, List.mem_filter.mpr ⟨target.mem_all, ?_⟩, refused⟩
    exact decide_eq_true member
  obtain ⟨error, failed⟩ := stage_of_refuses discovered mode named
  exact ⟨error, by simp only [mergeTargets, failed]⟩

theorem admits_of_mergeTargets {document after : Document} {discovered : List Component}
    {mode : Mode} {targets : List Target} {log : ChangeLog}
    (done : mergeTargets document discovered mode targets = .ok (after, log)) :
    ∀ target ∈ targets, document.Admits target := by
  intro target member
  apply Classical.byContradiction
  intro refuses
  obtain ⟨error, failed⟩ :=
    mergeTargets_of_refuses discovered mode ⟨target, member, refuses⟩
  rw [failed] at done
  cases done

theorem merged_of_mergeTargets {document after : Document} {discovered : List Component}
    {mode : Mode} {targets : List Target} {log : ChangeLog}
    (done : mergeTargets document discovered mode targets = .ok (after, log)) :
    Merged document after discovered mode targets := by
  obtain ⟨result, log', done', merged⟩ :=
    mergeTargets_of_admits discovered mode (admits_of_mergeTargets done)
  obtain ⟨rfl, -⟩ := Prod.mk.inj (Except.ok.inj (done'.symm.trans done))
  exact merged

/-- Lists that are not named stay as they are. -/
theorem Merged.items?_eq {document after : Document} {discovered : List Component} {mode : Mode}
    {targets : List Target} (merged : Merged document after discovered mode targets)
    {target : Target} (absent : target ∉ targets) :
    after.items? target = document.items? target := by
  unfold Document.items?
  rw [Document.targetNode?_congr (merged.unnamed target absent)]

/-- A merge in place changes all of the named lists and nothing else, or it fails and the document
is as before; it fails exactly if a named list or its section is of another kind. -/
theorem merge_all_or_nothing (document : Document) (discovered : List Component) (mode : Mode)
    (targets : List Target) :
    match (Session.merge discovered mode targets).on document with
    | (.ok log, after) =>
      mergeTargets document discovered mode targets = .ok (after, log) ∧
        (∀ target ∈ targets, document.Admits target) ∧
        Merged document after discovered mode targets
    | (.error error, after) =>
      mergeTargets document discovered mode targets = .error error ∧
        (∃ target ∈ targets, ¬ document.Admits target) ∧ after = document := by
  rw [Session.on_merge]
  by_cases refuses : ∃ target ∈ targets, ¬ document.Admits target
  · obtain ⟨error, failed⟩ := mergeTargets_of_refuses discovered mode refuses
    rw [failed]
    exact ⟨rfl, refuses, rfl⟩
  · have admits : ∀ target ∈ targets, document.Admits target := fun target member =>
      Classical.byContradiction fun refused => refuses ⟨target, member, refused⟩
    obtain ⟨after, log, merged, whole⟩ := mergeTargets_of_admits discovered mode admits
    rw [merged]
    exact ⟨rfl, admits, whole⟩

end BootSnapshot.Merge
