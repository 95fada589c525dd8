import BootSnapshot.Proofs.Merge.Additive
import BootSnapshot.Proofs.Merge.Log

set_option autoImplicit false

namespace BootSnapshot.Merge

def remaining (positions : List Nat) (items : List Node) : List Node :=
  (items.zipIdx.filter fun entry => entry.2 ∉ positions).map Prod.fst

/-- Sets the field that an update tells of. It fails unless the item is a dictionary that holds the
old text, and the new text is another one. -/
def redoUpdate (items : List Node) (change : Change) : Option (List Node) :=
  match change.kind, items[change.index]? with
  | .pathUpdated field old new, some (.dictionary fields) =>
    if fields.textOrEmpty field = old ∧ old ≠ new then
      some (items.set change.index (.dictionary (fields.insert field (.ofText new))))
    else none
  | _, _ => none

/-- Appends the item that an addition tells of. It fails unless its position is the end. -/
def redoAddition (itemOf? : String → Option Node) (items : List Node) (change : Change) :
    Option (List Node) :=
  if change.kind = .added ∧ change.index = items.length then
    (itemOf? change.identifyingPath).map fun item => items ++ [item]
  else none

def Mode.removal : Mode → ChangeKind
  | .additive => .staleRemoved
  | .clean => .removed

def Change.field? (change : Change) : Option String :=
  match change.kind with
  | .pathUpdated field _ _ => some field
  | _ => none

/-- Updates of earlier items come first, and of one item that of the executable. -/
def UpdatedBefore (one other : Change) : Prop :=
  one.index < other.index ∨ one.index = other.index ∧
    one.field? = some Field.executablePath ∧ other.field? = some Field.plistPath

/-- The changes of one list by the pass that makes them. -/
structure Phases where
  removals : ChangeLog
  updates : ChangeLog
  additions : ChangeLog

namespace Phases

def log (phases : Phases) : ChangeLog := phases.removals ++ phases.updates ++ phases.additions

def kept (phases : Phases) (old : List Node) : List Node :=
  remaining (phases.removals.map Change.index) old

/-- The list that the changes make of an old one, all removals being made at once. -/
def replay (phases : Phases) (itemOf? : String → Option Node) (old : List Node) :
    Option (List Node) :=
  (phases.updates.foldlM redoUpdate (phases.kept old)).bind fun updated =>
    phases.additions.foldlM (redoAddition itemOf?) updated

/-- Every pass tells its own kind of change, in the order of the positions. -/
structure InOrder (mode : Mode) (old : List Node) (phases : Phases) : Prop where
  removals : ∀ change ∈ phases.removals, change.kind = mode.removal ∧ change.index < old.length
  ascending : phases.removals.Pairwise fun one other => one.index < other.index
  updates : ∀ change ∈ phases.updates, mode = .additive ∧
    ∃ field ∈ followedKeys, ∃ before after, change.kind = .pathUpdated field before after
  byItem : phases.updates.Pairwise UpdatedBefore
  additions : ∀ change ∈ phases.additions, change.kind = .added
  places : phases.additions.map Change.index =
    List.range' (phases.kept old).length phases.additions.length

end Phases

/-- The log tells in order how the new list comes from the old one. -/
def Replays (mode : Mode) (itemOf? : String → Option Node) (old new : List Node)
    (log : ChangeLog) : Prop :=
  ∃ phases : Phases, phases.log = log ∧ phases.InOrder mode old ∧
    phases.replay itemOf? old = some new ∧
    (phases.kept old).length + phases.additions.length = new.length

/-- The item that a merge makes for the component that stands for an identity. -/
def itemFor? (target : Target) (old : List Node) (components : List Component) (path : String) :
    Option Node :=
  (Component.firstOf? (identityFor target old components) components path).map
    (defaultEntry · (target = .uefiDrivers && holdsBarePaths old))

theorem remaining_eq_filter {positions : List Nat} {items : List Node} (keeps : Node → Bool)
    (listed : ∀ entry ∈ items.zipIdx, entry.2 ∈ positions ↔ keeps entry.1 = false) :
    remaining positions items = items.filter keeps := by
  have same : ∀ entry ∈ items.zipIdx, decide (entry.2 ∉ positions) = keeps entry.1 := by
    intro entry member
    by_cases inside : entry.2 ∈ positions
    · rw [(listed entry member).mp inside]
      exact decide_eq_false (not_not_intro inside)
    · have stays : keeps entry.1 = true := by
        rw [← Bool.not_eq_false]
        exact fun drops => inside ((listed entry member).mpr drops)
      rw [stays]
      exact decide_eq_true inside
  unfold remaining
  rw [List.filter_congr same]
  calc ((items.zipIdx.filter fun entry => keeps entry.1).map Prod.fst)
      = (items.zipIdx.map Prod.fst).filter keeps := List.filter_map.symm
    _ = items.filter keeps := by rw [List.zipIdx_map_fst]

theorem remaining_nil (items : List Node) : remaining [] items = items := by
  have all : items.filter (fun _ => true) = items := List.filter_eq_self.mpr fun _ _ => rfl
  rw [remaining_eq_filter (fun _ => true) fun _ _ => by
    simp only [List.not_mem_nil, Bool.true_eq_false], all]

section Removals

variable (target : Target) (identity : KextIdentity) (wanted : Wanted)

/-- An additive merge removes what it does not keep. -/
theorem remaining_staleChanges (items : List Node) :
    remaining ((staleChanges target identity wanted 0 items).map Change.index) items =
      kept target identity wanted items := by
  refine remaining_eq_filter _ fun entry member => ?_
  have here := List.mem_zipIdx_iff_getElem?.mp member
  rw [staleChanges_eq, List.map_filterMap, List.mem_filterMap]
  constructor
  · rintro ⟨other, inside, told⟩
    simp only [Option.map_map, Option.map_eq_some_iff, Function.comp_apply] at told
    obtain ⟨path, gone, place⟩ := told
    have there := List.mem_zipIdx_iff_getElem?.mp inside
    rw [place, here, Option.some_inj] at there
    rw [there, gone]
    rfl
  · intro drops
    obtain ⟨path, gone⟩ := Option.isSome_iff_exists.mp
      (Option.isNone_eq_false_iff.mp drops)
    exact ⟨entry, member, by simp only [gone, Option.map_some]⟩

/-- A clean merge removes everything. -/
theorem remaining_cleanChanges (items : List Node) :
    remaining ((cleanChanges target identity 0 items).map Change.index) items = [] := by
  have none : items.filter (fun _ => false) = [] :=
    List.filter_eq_nil_iff.mpr fun _ _ => Bool.false_ne_true
  rw [remaining_eq_filter (fun _ => false) fun entry member => ?_, none]
  rw [cleanChanges_eq, List.map_map]
  exact iff_of_true (List.mem_map.mpr ⟨entry, member, rfl⟩) rfl

theorem mem_staleChanges {items : List Node} {change : Change}
    (member : change ∈ staleChanges target identity wanted 0 items) :
    change.kind = .staleRemoved ∧ change.index < items.length := by
  rw [staleChanges_eq] at member
  obtain ⟨entry, inside, told⟩ := List.mem_filterMap.mp member
  obtain ⟨path, -, rfl⟩ := Option.map_eq_some_iff.mp told
  have here := List.mem_zipIdx_iff_getElem?.mp inside
  exact ⟨rfl, (List.getElem?_eq_some_iff.mp here).1⟩

theorem mem_cleanChanges {items : List Node} {change : Change}
    (member : change ∈ cleanChanges target identity 0 items) :
    change.kind = .removed ∧ change.index < items.length := by
  rw [cleanChanges_eq] at member
  obtain ⟨entry, inside, rfl⟩ := List.mem_map.mp member
  have here := List.mem_zipIdx_iff_getElem?.mp inside
  exact ⟨rfl, (List.getElem?_eq_some_iff.mp here).1⟩

theorem pairwise_staleChanges (index : Nat) (items : List Node) :
    (staleChanges target identity wanted index items).Pairwise
      fun one other => one.index < other.index := by
  rw [staleChanges_eq]
  refine (pairwise_zipIdx items index).filterMap _ fun one other before => ?_
  intro change told later told'
  obtain ⟨path, -, rfl⟩ := Option.map_eq_some_iff.mp told
  obtain ⟨path', -, rfl⟩ := Option.map_eq_some_iff.mp told'
  exact before

theorem pairwise_cleanChanges (index : Nat) (items : List Node) :
    (cleanChanges target identity index items).Pairwise
      fun one other => one.index < other.index := by
  rw [cleanChanges_eq]
  exact List.pairwise_map.mpr (pairwise_zipIdx items index)

end Removals

section Updates

variable (identity : KextIdentity) (wanted : Wanted)

/-- The updates of one field redone on the item at the position after the front. -/
theorem redo_updateField (front rest : List Node) (path field new : String)
    (fields : Dictionary Node) :
    (updateField front.length path field new fields).2.foldlM redoUpdate
        (front ++ .dictionary fields :: rest) =
      some (front ++ .dictionary (updateField front.length path field new fields).1 :: rest) := by
  unfold updateField
  by_cases same : fields.textOrEmpty field = new
  · simp only [same, ↓reduceIte, List.foldlM_nil, Option.pure_def]
  · have here : (front ++ Node.dictionary fields :: rest)[front.length]? =
        some (.dictionary fields) := by
      rw [List.getElem?_append_right (Nat.le_refl _), Nat.sub_self, List.getElem?_cons_zero]
    have written (node : Node) : (front ++ Node.dictionary fields :: rest).set front.length node =
        front ++ node :: rest := by
      rw [List.set_append_right _ _ (Nat.le_refl _), Nat.sub_self, List.set_cons_zero]
    simp only [same, ↓reduceIte, List.foldlM_cons, List.foldlM_nil, redoUpdate, here, ne_eq,
      not_false_eq_true, and_self, written, Option.bind_eq_bind, Option.bind_some,
      Option.pure_def]

theorem redo_updateKext (front rest : List Node) (node : Node) :
    (updateKext identity wanted front.length node).2.foldlM redoUpdate (front ++ node :: rest) =
      some (front ++ (updateKext identity wanted front.length node).1 :: rest) := by
  cases dictionary : node.dictionary? with
  | none => rw [updateKext_other dictionary, List.foldlM_nil, Option.pure_def]
  | some fields =>
    obtain rfl := Node.eq_of_dictionary? dictionary
    unfold updateKext
    dsimp only
    split
    · rw [List.foldlM_append, redo_updateField]
      exact redo_updateField _ _ _ _ _ _
    · rw [List.foldlM_nil, Option.pure_def]

/-- The updates of a list redone, with what stands before it left alone. -/
theorem redo_updateKexts (front items : List Node) :
    (updateKexts identity wanted front.length items).2.foldlM redoUpdate (front ++ items) =
      some (front ++ (updateKexts identity wanted front.length items).1) := by
  induction items generalizing front with
  | nil => rfl
  | cons node rest ih =>
    let updated := (updateKext identity wanted front.length node).1
    have next := ih (front ++ [updated])
    rw [List.length_append, List.length_singleton, List.append_assoc, List.append_assoc,
      List.singleton_append, List.singleton_append] at next
    simp only [updateKexts]
    rw [List.foldlM_append, redo_updateKext]
    exact next

theorem pairwise_updateKext (index : Nat) (node : Node) :
    (updateKext identity wanted index node).2.Pairwise UpdatedBefore := by
  obtain ⟨path, old, new, old', new', sublist⟩ := updateKext_sublist identity wanted index node
  refine List.Pairwise.sublist sublist (List.pairwise_cons.mpr ⟨?_, List.pairwise_singleton _ _⟩)
  intro later member
  obtain rfl := List.mem_singleton.mp member
  exact Or.inr ⟨rfl, rfl, rfl⟩

theorem pairwise_updateKexts (index : Nat) (items : List Node) :
    (updateKexts identity wanted index items).2.Pairwise UpdatedBefore := by
  rw [updateKexts_eq]
  refine List.pairwise_flatMap.mpr ⟨fun entry _ => pairwise_updateKext identity wanted _ _, ?_⟩
  refine (pairwise_zipIdx items index).imp fun {one other} before => ?_
  intro change early later late
  obtain ⟨-, place, -⟩ := mem_updateKext early
  obtain ⟨-, place', -⟩ := mem_updateKext late
  apply Or.inl
  rw [place, place']
  exact before

end Updates

theorem length_redoUpdate {items after : List Node} {change : Change}
    (done : redoUpdate items change = some after) : after.length = items.length := by
  unfold redoUpdate at done
  split at done
  · split at done
    · rw [← Option.some_inj.mp done, List.length_set]
    · cases done
  · cases done

theorem length_redoUpdates {items after : List Node} {updates : ChangeLog}
    (done : updates.foldlM redoUpdate items = some after) : after.length = items.length := by
  induction updates generalizing items with
  | nil => rw [← Option.some_inj.mp done]
  | cons change rest ih =>
    rw [List.foldlM_cons] at done
    obtain ⟨next, first, later⟩ := Option.bind_eq_some_iff.mp done
    rw [ih later, length_redoUpdate first]

theorem redo_addedChanges {itemOf? : String → Option Node} {bare : Bool} (target : Target)
    {added : Wanted}
    (known : ∀ pair ∈ added, itemOf? pair.1 = some (defaultEntry pair.2 bare))
    (items : List Node) :
    (addedChanges target items.length added).foldlM (redoAddition itemOf?) items =
      some (items ++ added.map fun pair => defaultEntry pair.2 bare) := by
  induction added generalizing items with
  | nil =>
    rw [List.map_nil, List.append_nil]
    rfl
  | cons pair rest ih =>
    have next := ih (fun other member => known other (List.mem_cons_of_mem pair member))
      (items ++ [defaultEntry pair.2 bare])
    rw [List.length_append, List.length_singleton, List.append_assoc, List.singleton_append] at next
    simp only [addedChanges, List.foldlM_cons, redoAddition, and_self, ↓reduceIte,
      known pair List.mem_cons_self, Option.map_some, Option.bind_eq_bind, Option.bind_some,
      List.map_cons]
    exact next

/-- A list that was built by removals, updates and additions is replayed from them. -/
theorem replays_append (mode : Mode) (target : Target) {bare : Bool}
    {itemOf? : String → Option Node} {old updated : List Node} {removals updates : ChangeLog}
    {added : Wanted}
    (gone : ∀ change ∈ removals, change.kind = mode.removal ∧ change.index < old.length)
    (ascending : removals.Pairwise fun one other => one.index < other.index)
    (fields : ∀ change ∈ updates, mode = .additive ∧
      ∃ field ∈ followedKeys, ∃ before after, change.kind = .pathUpdated field before after)
    (byItem : updates.Pairwise UpdatedBefore)
    (redone : updates.foldlM redoUpdate (remaining (removals.map Change.index) old) = some updated)
    (known : ∀ pair ∈ added, itemOf? pair.1 = some (defaultEntry pair.2 bare)) :
    Replays mode itemOf? old
      (Outcome.append target bare updated (removals ++ updates) added).items
      (Outcome.append target bare updated (removals ++ updates) added).changes := by
  have size := length_redoUpdates redone
  refine ⟨⟨removals, updates, addedChanges target updated.length added⟩, rfl,
    ⟨gone, ascending, fields, byItem, ?_, ?_⟩, ?_, ?_⟩
  · intro change member
    rw [addedChanges_eq] at member
    obtain ⟨entry, -, rfl⟩ := List.mem_map.mp member
    rfl
  · simp only [Phases.kept, ← size, addedChanges_eq, List.map_map, List.length_map,
      List.length_zipIdx]
    exact List.zipIdx_map_snd updated.length added
  · simp only [Phases.replay, Phases.kept, redone, Option.bind_some]
    exact redo_addedChanges target known updated
  · simp only [Phases.kept, ← size, addedChanges_eq, List.length_map, List.length_zipIdx,
      Outcome.append, List.length_append]

/-- The changes that reconciling a list tells of give the reconciled list. -/
theorem replays_reconcile (target : Target) (existing : List Node) (components : List Component)
    (mode : Mode) :
    Replays mode (itemFor? target existing components) existing
      (reconcile target existing components mode).items
      (reconcile target existing components mode).changes := by
  let identity := identityFor target existing components
  let wanted := Wanted.ofComponents identity components
  have known : ∀ pair ∈ wanted, itemFor? target existing components pair.1 =
      some (defaultEntry pair.2 (target = .uefiDrivers && holdsBarePaths existing)) := by
    intro pair member
    have first := (Wanted.mem_ofComponents identity components).mp member
    exact congrArg (Option.map _) first
  have noUpdates : ∀ change ∈ ([] : ChangeLog), mode = .additive ∧
      ∃ field ∈ followedKeys, ∃ before after, change.kind = .pathUpdated field before after :=
    fun change member => absurd member List.not_mem_nil
  cases mode with
  | clean =>
    have redone : ([] : ChangeLog).foldlM redoUpdate
        (remaining ((cleanChanges target identity 0 existing).map Change.index) existing) =
          some [] := by
      rw [remaining_cleanChanges]
      rfl
    have replays := replays_append .clean target
      (fun change member => mem_cleanChanges target identity member)
      (pairwise_cleanChanges target identity 0 existing) noUpdates List.Pairwise.nil redone known
    rw [List.append_nil] at replays
    exact replays
  | additive =>
    have gone : ∀ change ∈ staleChanges target identity wanted 0 existing,
        change.kind = Mode.removal .additive ∧ change.index < existing.length :=
      fun change member => mem_staleChanges target identity wanted member
    have ascending := pairwise_staleChanges target identity wanted 0 existing
    have left := remaining_staleChanges target identity wanted existing
    have knownMissing : ∀ pair ∈ missing wanted (matched target identity
        (kept target identity wanted existing)), itemFor? target existing components pair.1 =
          some (defaultEntry pair.2 (target = .uefiDrivers && holdsBarePaths existing)) :=
      fun pair member => known pair (List.mem_filter.mp member).1
    by_cases kexts : target = .kernelAdd
    · subst kexts
      have redone := redo_updateKexts identity wanted [] (kept .kernelAdd identity wanted existing)
      rw [List.nil_append, List.nil_append, ← left] at redone
      have replays := replays_append .additive .kernelAdd gone ascending
        (fun change member => ⟨rfl, (mem_updateKexts member).2⟩)
        (pairwise_updateKexts identity wanted _ _) redone knownMissing
      rw [left] at replays
      exact replays
    · have redone : ([] : ChangeLog).foldlM redoUpdate
          (remaining ((staleChanges target identity wanted 0 existing).map Change.index) existing) =
            some (kept target identity wanted existing) := by
        rw [left]
        rfl
      have replays := replays_append .additive target gone ascending noUpdates
        List.Pairwise.nil redone knownMissing
      rw [List.append_nil] at replays
      simp only [reconcile, kexts, ↓reduceIte]
      exact replays

/-- A list with no changes is as it was. -/
theorem Replays.eq_of_nil {mode : Mode} {itemOf? : String → Option Node} {old new : List Node}
    (replays : Replays mode itemOf? old new []) : new = old := by
  obtain ⟨⟨removals, updates, additions⟩, empty, -, done, -⟩ := replays
  simp only [Phases.log, List.append_eq_nil_iff] at empty
  obtain ⟨⟨rfl, rfl⟩, rfl⟩ := empty
  simp only [Phases.replay, Phases.kept, List.map_nil, remaining_nil, List.foldlM_nil,
    Option.pure_def, Option.bind_some, Option.some_inj] at done
  exact done.symm

/-- The log of a merge tells of every named list, in order, how the new one comes from the old one,
and nothing of other lists, which stay; a merge that reports nothing changes no list. -/
theorem log_replays_merge {document after : Document} {discovered : List Component} {mode : Mode}
    {targets : List Target} {log : ChangeLog}
    (done : mergeTargets document discovered mode targets = .ok (after, log)) :
    (∀ target ∈ targets, ∃ new, after.items? target = some new ∧
      Replays mode
        (itemFor? target ((document.items? target).getD [])
          (ofCategory discovered target.category))
        ((document.items? target).getD []) new (log.ofTarget target)) ∧
    (∀ target, target ∉ targets →
      log.ofTarget target = [] ∧ after.items? target = document.items? target) ∧
    (log = [] → ∀ target items, document.items? target = some items →
      after.items? target = some items) := by
  have merged := merged_of_mergeTargets done
  have named : ∀ target ∈ targets, ∃ new, after.items? target = some new ∧
      Replays mode
        (itemFor? target ((document.items? target).getD [])
          (ofCategory discovered target.category))
        ((document.items? target).getD []) new (log.ofTarget target) := by
    intro target member
    refine ⟨_, merged.lists target member, ?_⟩
    rw [ofTarget_of_mergeTargets done target, if_pos member]
    exact replays_reconcile _ _ _ _
  have unnamed : ∀ target, target ∉ targets →
      log.ofTarget target = [] ∧ after.items? target = document.items? target := by
    intro target absent
    rw [ofTarget_of_mergeTargets done target, if_neg absent]
    exact ⟨rfl, merged.items?_eq absent⟩
  refine ⟨named, unnamed, fun silent target items held => ?_⟩
  by_cases member : target ∈ targets
  · obtain ⟨new, found, replays⟩ := named target member
    rw [held, silent] at replays
    rw [found, Replays.eq_of_nil replays]
    rfl
  · rw [(unnamed target member).2, held]

/-- One item is removed, one is updated, and a new one takes the place of the removed one. -/
theorem outdatedDocument_log_replays :
    ∃ after log, mergeTargets outdatedDocument foundKexts .additive [.miscTools, .kernelAdd] =
        .ok (after, log) ∧
      log = [⟨.kernelAdd, .staleRemoved, "Gone.kext", 2⟩,
        ⟨.kernelAdd, .pathUpdated Field.executablePath "Contents/MacOS/Old" "Contents/MacOS/Lilu",
          "Lilu.kext", 0⟩,
        ⟨.kernelAdd, .added, "VirtualSMC.kext", 2⟩] ∧
      ∃ new, after.items? .kernelAdd = some new ∧
        Replays .additive (itemFor? .kernelAdd outdatedKexts foundKexts) outdatedKexts new
          (log.ofTarget .kernelAdd) := by
  have told : (mergeTargets outdatedDocument foundKexts .additive
      [.miscTools, .kernelAdd]).toOption.map Prod.snd =
      some [⟨.kernelAdd, .staleRemoved, "Gone.kext", 2⟩,
        ⟨.kernelAdd, .pathUpdated Field.executablePath "Contents/MacOS/Old" "Contents/MacOS/Lilu",
          "Lilu.kext", 0⟩,
        ⟨.kernelAdd, .added, "VirtualSMC.kext", 2⟩] := by decide +kernel
  cases done : mergeTargets outdatedDocument foundKexts .additive [.miscTools, .kernelAdd] with
  | error error =>
    rw [done] at told
    cases told
  | ok result =>
    obtain ⟨after, log⟩ := result
    rw [done] at told
    have named : Target.kernelAdd ∈ [Target.miscTools, .kernelAdd] := by decide
    exact ⟨after, log, rfl, Option.some_inj.mp told, (log_replays_merge done).1 .kernelAdd named⟩

end BootSnapshot.Merge
