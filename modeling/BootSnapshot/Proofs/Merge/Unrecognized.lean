import BootSnapshot.Proofs.Merge.Additive
import BootSnapshot.Proofs.Merge.Replay
import BootSnapshot.Proofs.Merge.Sharing

set_option autoImplicit false

namespace BootSnapshot.Merge

open ExistingEntry ComponentPath

/-- Where an item that stays stands afterwards: behind the items before it that stay. -/
def placeAfter (keeps : Node → Bool) (items : List Node) (index : Nat) : Nat :=
  ((items.take index).filter keeps).length

/-- An item of the list of kexts is taken for a component with other paths. It has no bundle path
to go by, but neither do others, and its executable path is what identifies the component. -/
def TakenForKext (target : Target) (existing : List Node) (components : List Component)
    (node : Node) : Prop :=
  target = .kernelAdd ∧ 1 < (existing.filterMap KextIdentity.bundleOf?).count "" ∧
    ∃ fields component, node = .dictionary fields ∧
      Component.firstOf? (identityFor target existing components) components
        (normalize (KextPaths.ofDictionary fields).qualifier) = some component ∧
      ¬ (fields.textOrEmpty Field.executablePath = component.executablePath.getD "" ∧
        fields.textOrEmpty Field.plistPath = component.infoPath.getD "")

/-- What an additive merge must do with the items that it does not recognize. They stay, each
behind those that stay before it; they are as they were and the log tells nothing of them, except
for those that are taken for kexts. -/
def KeepsUnrecognized (target : Target) (existing : List Node) (components : List Component)
    (result : List Node) (log : ChangeLog) : Prop :=
  let identity := identityFor target existing components
  let place := placeAfter (stays target identity components) existing
  ∀ index node, existing[index]? = some node → project? target index node identity = none →
    (∀ change ∈ log, change.kind = .staleRemoved → change.index ≠ index) ∧
    ∃ after, result[place index]? = some after ∧ Carried target identity components node after ∧
      ((after = node ∧
          ∀ change ∈ log, ChangeLog.isUpdate change.kind → change.index ≠ place index) ↔
        ¬ TakenForKext target existing components node)

theorem pathOf?_of_project? {target : Target} {identity : KextIdentity} {index : Nat} {node : Node}
    (unknown : project? target index node identity = none) :
    pathOf? target identity node = none := by
  unfold pathOf? project? at *
  split at unknown
  · rename_i form path _
    split at unknown
    · rename_i blank
      simp only [blank, ↓reduceIte, Option.map_none]
    · cases unknown
  · rfl

/-- A kept kext is left alone exactly if its paths are those of its component or it has none. -/
theorem updateKext_eq_self_iff {identity : KextIdentity} {components : List Component} {index : Nat}
    {fields : Dictionary Node} :
    updateKext identity (Wanted.ofComponents identity components) index (.dictionary fields) =
        (.dictionary fields, []) ↔
      ∀ component,
        Component.firstOf? identity components (identity.ofDictionary fields) = some component →
          fields.textOrEmpty Field.executablePath = component.executablePath.getD "" ∧
          fields.textOrEmpty Field.plistPath = component.infoPath.getD "" := by
  refine ⟨fun same => ?_, fun current => updateKext_of_current current index⟩
  obtain ⟨after, updated, refreshed⟩ := updateKext_dictionary identity components index fields
  rw [same] at updated
  obtain rfl := Node.dictionary.inj updated
  exact refreshed.current

/-- The components have paths, so a blank bundle path is shared only between items. -/
theorem isShared_blank {existing : List Node} {components : List Component}
    (named : ∀ component ∈ components, normalize component.relativePath ≠ "") :
    (KextIdentity.ofSides existing components).isShared "" = true ↔
      1 < (existing.filterMap KextIdentity.bundleOf?).count "" := by
  have unnamed : "" ∉ KextIdentity.repeated
      (components.map fun component => normalize component.relativePath) := by
    intro twice
    obtain ⟨component, member, blank⟩ := List.mem_map.mp (mem_repeated.mp twice).1
    exact named component member blank
  unfold KextIdentity.isShared KextIdentity.ofSides
  rw [List.contains_iff_mem, List.mem_append, or_iff_left unnamed, mem_repeated]
  exact and_iff_right_of_imp fun twice => List.count_pos_iff.mp (by omega)

/-- What identifies an item without a bundle path. -/
theorem ofDictionary_of_blank (identity : KextIdentity) {fields : Dictionary Node}
    (blank : (KextPaths.ofDictionary fields).bundleKey = "") :
    identity.ofDictionary fields =
      if identity.isShared "" then normalize (KextPaths.ofDictionary fields).qualifier else "" := by
  have joined : (KextPaths.ofDictionary fields).qualifiedKey =
      normalize (KextPaths.ofDictionary fields).qualifier := by
    rw [KextPaths.qualifiedKey, blank]
    refine (normalize_eq_iff _ _).mpr ?_
    change partsOf ("" ++ "/" ++ (KextPaths.ofDictionary fields).qualifier) = _
    rw [partsOf_join]
    rfl
  rw [← KextPaths.keyIn_ofDictionary, KextPaths.keyIn_eq, blank, joined]

/-- The pass over the paths leaves an unrecognized item alone unless it takes it for a kext. -/
theorem updateKext_of_unrecognized {existing : List Node} {components : List Component}
    (named : ∀ component ∈ components, normalize component.relativePath ≠ "")
    (kexts : ∀ component ∈ components, component.category = .kext) {node : Node}
    (unknown : pathOf? .kernelAdd (identityFor .kernelAdd existing components) node = none)
    (index : Nat) :
    updateKext (identityFor .kernelAdd existing components)
        (Wanted.ofComponents (identityFor .kernelAdd existing components) components) index node =
          (node, []) ↔
      ¬ TakenForKext .kernelAdd existing components node := by
  cases dictionary : node.dictionary? with
  | none =>
    refine iff_of_true (updateKext_other dictionary _ _) ?_
    rintro ⟨-, -, fields, component, rfl, -⟩
    cases dictionary
  | some fields =>
    obtain rfl := Node.eq_of_dictionary? dictionary
    have blank : (KextPaths.ofDictionary fields).bundleKey = "" := by
      rw [pathOf?_kext] at unknown
      split at unknown
      · assumption
      · cases unknown
    have shared : (identityFor .kernelAdd existing components).isShared "" = true ↔
        1 < (existing.filterMap KextIdentity.bundleOf?).count "" := isShared_blank named
    rw [updateKext_eq_self_iff, ofDictionary_of_blank _ blank]
    by_cases several : 1 < (existing.filterMap KextIdentity.bundleOf?).count ""
    · rw [if_pos (shared.mpr several)]
      constructor
      · rintro current ⟨-, -, _, component, same, first, moved⟩
        obtain rfl := Node.dictionary.inj same
        exact moved (current component first)
      · intro spared component first
        by_contra moved
        exact spared ⟨rfl, several, fields, component, rfl, first, moved⟩
    · rw [if_neg fun twice => several (shared.mp twice)]
      refine iff_of_true (fun component first => ?_) fun taken => several taken.2.1
      -- no component has a blank identity
      obtain ⟨member, nameless⟩ := Component.firstOf?_some first
      rw [← KextPaths.keyIn_ofComponent _ (kexts component member)] at nameless
      exact absurd nameless (KextPaths.keyIn_ne_empty _ (named component member))

/-- An item that stays is found at its place among those that stay. -/
theorem getElem?_placeAfter {keeps : Node → Bool} {items : List Node} {index : Nat} {node : Node}
    (here : items[index]? = some node) (kept : keeps node = true) :
    (items.filter keeps)[placeAfter keeps items index]? = some node := by
  obtain ⟨inside, rfl⟩ := List.getElem?_eq_some_iff.mp here
  have split : items.filter keeps =
      (items.take index).filter keeps ++ items[index] :: (items.drop (index + 1)).filter keeps := by
    conv_lhs => rw [← List.take_append_drop index items, List.drop_eq_getElem_cons inside]
    rw [List.filter_append, List.filter_cons, if_pos kept]
  rw [split, placeAfter, List.getElem?_append_right (Nat.le_refl _), Nat.sub_self,
    List.getElem?_cons_zero]

/-- No removal is about an item that stays. -/
theorem index_ne_of_mem_staleChanges {target : Target} {identity : KextIdentity}
    {components : List Component} {existing : List Node} {index : Nat} {node : Node}
    (here : existing[index]? = some node) (kept : stays target identity components node = true)
    {change : Change} (member : change ∈
      staleChanges target identity (Wanted.ofComponents identity components) 0 existing) :
    change.index ≠ index := by
  rw [staleChanges_eq] at member
  obtain ⟨⟨other, position⟩, inside, told⟩ := List.mem_filterMap.mp member
  obtain ⟨path, gone, rfl⟩ := Option.map_eq_some_iff.mp told
  rintro rfl
  have there := List.mem_zipIdx_iff_getElem?.mp inside
  obtain rfl : other = node := Option.some_inj.mp (there.symm.trans here)
  rw [stale?_eq, if_pos kept] at gone
  cases gone

theorem kind_of_mem_addedChanges {target : Target} {index : Nat} {added : Wanted} {change : Change}
    (member : change ∈ addedChanges target index added) : change.kind = .added := by
  rw [addedChanges_eq] at member
  obtain ⟨entry, -, rfl⟩ := List.mem_map.mp member
  rfl

/-- The log tells no update of an item exactly if the pass over the paths tells none. -/
theorem updates_at {identity : KextIdentity} {wanted : Wanted} {items : List Node} {place : Nat}
    {node : Node} (here : items[place]? = some node) :
    (∀ change ∈ (updateKexts identity wanted 0 items).2, change.index ≠ place) ↔
      (updateKext identity wanted place node).2 = [] := by
  rw [updateKexts_eq, List.eq_nil_iff_forall_not_mem]
  constructor
  · intro silent change told
    refine silent change (List.mem_flatMap.mpr ⟨(node, place), ?_, told⟩) (mem_updateKext told).2.1
    exact List.mem_zipIdx_iff_getElem?.mpr here
  · rintro silent change told rfl
    obtain ⟨⟨other, position⟩, inside, own⟩ := List.mem_flatMap.mp told
    obtain rfl : change.index = position := (mem_updateKext own).2.1
    have there := List.mem_zipIdx_iff_getElem?.mp inside
    obtain rfl : other = node := Option.some_inj.mp (there.symm.trans here)
    exact silent change own

section Passes

variable {target : Target} {identity : KextIdentity} {components : List Component}
  {existing : List Node} {updates : ChangeLog}

/-- Neither updates nor additions tell of removals. -/
theorem no_removal_of_stays {index : Nat} {node : Node} (here : existing[index]? = some node)
    (kept : stays target identity components node = true)
    (isUpdates : ∀ change ∈ updates, ChangeLog.isUpdate change.kind = true) (bare : Bool)
    (items : List Node) (added : Wanted) :
    ∀ change ∈ (Outcome.append target bare items (staleChanges target identity
        (Wanted.ofComponents identity components) 0 existing ++ updates) added).changes,
      change.kind = .staleRemoved → change.index ≠ index := by
  intro change member kind
  rcases List.mem_append.mp member with early | late
  · rcases List.mem_append.mp early with removal | update
    · exact index_ne_of_mem_staleChanges here kept removal
    · have updated := isUpdates change update
      rw [kind] at updated
      cases updated
  · rw [kind_of_mem_addedChanges late] at kind
    cases kind

/-- Neither removals nor additions tell of updates. -/
theorem no_update_iff (wanted : Wanted)
    (isUpdates : ∀ change ∈ updates, ChangeLog.isUpdate change.kind = true) (bare : Bool)
    (items : List Node) (added : Wanted) (place : Nat) :
    (∀ change ∈ (Outcome.append target bare items
        (staleChanges target identity wanted 0 existing ++ updates) added).changes,
      ChangeLog.isUpdate change.kind → change.index ≠ place) ↔
      ∀ change ∈ updates, change.index ≠ place := by
  constructor
  · intro silent change member
    refine silent change ?_ (isUpdates change member)
    exact List.mem_append_left _ (List.mem_append_right _ member)
  · intro silent change member update
    rcases List.mem_append.mp member with early | late
    · rcases List.mem_append.mp early with removal | told
      · rw [(mem_staleChanges _ _ _ removal).1] at update
        cases update
      · exact silent change told
    · rw [kind_of_mem_addedChanges late] at update
      cases update

theorem getElem?_items_append {items : List Node} {place : Nat} {node : Node}
    (here : items[place]? = some node) (bare : Bool) (removals : ChangeLog) (added : Wanted) :
    (Outcome.append target bare items removals added).items[place]? = some node :=
  (List.getElem?_append_left (List.getElem?_eq_some_iff.mp here).1).trans here

end Passes

theorem keepsUnrecognized_reconcile (target : Target) (existing : List Node)
    {components : List Component}
    (category : ∀ component ∈ components, component.category = target.category)
    (named : ∀ component ∈ components, normalize component.relativePath ≠ "") :
    KeepsUnrecognized target existing components
      (reconcile target existing components .additive).items
      (reconcile target existing components .additive).changes := by
  intro index node here unrecognized
  let identity := identityFor target existing components
  let wanted := Wanted.ofComponents identity components
  let place := placeAfter (stays target identity components) existing index
  have unknown : pathOf? target identity node = none := pathOf?_of_project? unrecognized
  have stay : stays target identity components node = true := stays_of_unrecognized unknown
  have found : (kept target identity wanted existing)[place]? = some node := by
    rw [kept_eq]
    exact getElem?_placeAfter here stay
  by_cases kexts : target = .kernelAdd
  · subst kexts
    have isUpdates : ∀ change ∈ (updateKexts identity wanted 0
        (kept .kernelAdd identity wanted existing)).2, ChangeLog.isUpdate change.kind = true := by
      intro change member
      obtain ⟨-, field, -, old, new, kind⟩ := mem_updateKexts member
      rw [kind]
      rfl
    have updated : (updateKexts identity wanted 0 (kept .kernelAdd identity wanted existing)).1[
        place]? = some (updateKext identity wanted place node).1 := by
      simp only [updateKexts_eq, List.getElem?_map, List.getElem?_zipIdx, found, Option.map_some,
        Nat.zero_add]
    refine ⟨no_removal_of_stays here stay isUpdates _ _ _, _,
      getElem?_items_append updated _ _ _, carried_updateKext stay place, ?_⟩
    refine Iff.trans ?_ (updateKext_of_unrecognized named category unknown place)
    rw [Prod.ext_iff]
    exact and_congr_right fun _ =>
      (no_update_iff wanted isUpdates _ _ _ place).trans (updates_at found)
  · have noUpdates : ∀ change ∈ ([] : ChangeLog), ChangeLog.isUpdate change.kind = true :=
      fun change member => absurd member List.not_mem_nil
    have passes : reconcile target existing components .additive =
        .append target (target = .uefiDrivers && holdsBarePaths existing)
          (kept target identity wanted existing)
          (staleChanges target identity wanted 0 existing ++ [])
          (missing wanted (matched target identity (kept target identity wanted existing))) := by
      simp only [reconcile, kexts, ↓reduceIte, List.append_nil]
      rfl
    rw [passes]
    refine ⟨no_removal_of_stays here stay noUpdates _ _ _, node,
      getElem?_items_append found _ _ _, carried_of_ne kexts node, ?_⟩
    refine iff_of_true ⟨rfl, (no_update_iff wanted noUpdates _ _ _ place).mpr ?_⟩
      fun taken => kexts taken.1
    exact fun change member => absurd member List.not_mem_nil

/-- An additive merge of lists of the right kinds succeeds and keeps what it does not recognize: in
its place, as it was and without a word in the log, unless it is taken for a kext. -/
theorem unrecognized_items_survive {document : Document} {discovered : List Component}
    {targets : List Target} (admits : ∀ target ∈ targets, document.Admits target)
    (named : ∀ component ∈ discovered, normalize component.relativePath ≠ "")
    {target : Target} (member : target ∈ targets) :
    ∃ after log result, mergeTargets document discovered .additive targets = .ok (after, log) ∧
      after.items? target = some result ∧
      KeepsUnrecognized target ((document.items? target).getD [])
        (ofCategory discovered target.category) result (log.ofTarget target) := by
  obtain ⟨after, log, done, merged⟩ := mergeTargets_of_admits discovered .additive admits
  refine ⟨after, log, _, done, merged.lists target member, ?_⟩
  rw [ofTarget_of_mergeTargets done target, if_pos member]
  exact keepsUnrecognized_reconcile _ _ (fun _ inside => category_of_mem inside)
    fun component inside => named component (List.mem_filter.mp inside).1

def namelessNote : Node :=
  .dictionary ⟨[(Field.bundlePath, .ofText ""), ("Comment", .ofText "try this"),
    (Field.executablePath, .ofText "Lilu.kext")]⟩

/-- A list of kexts in which two items have blank bundle paths. -/
def namelessDocument : Document :=
  ⟨⟨[("Kernel", .dictionary ⟨[("Add", .sequence [namelessNote,
    .dictionary ⟨[(Field.bundlePath, .ofText "/"), ("Comment", .ofText "spare")]⟩])]⟩)]⟩⟩

theorem named_foundKexts : ∀ component ∈ foundKexts, normalize component.relativePath ≠ "" := by
  decide +kernel

theorem namelessDocument_keeps_unrecognized :
    (∀ target ∈ [Target.kernelAdd], namelessDocument.Admits target) ∧
    (∀ component ∈ foundKexts, normalize component.relativePath ≠ "") ∧
    ∃ after log result, mergeTargets namelessDocument foundKexts .additive [.kernelAdd] =
        .ok (after, log) ∧
      after.items? .kernelAdd = some result ∧
      KeepsUnrecognized .kernelAdd ((namelessDocument.items? .kernelAdd).getD [])
        (ofCategory foundKexts .kext) result (log.ofTarget .kernelAdd) := by
  have admits : ∀ target ∈ [Target.kernelAdd], namelessDocument.Admits target := by
    intro target member
    obtain rfl := List.mem_singleton.mp member
    have held : namelessDocument.items? .kernelAdd = some _ := rfl
    exact Document.admits_of_items? held
  exact ⟨admits, named_foundKexts,
    unrecognized_items_survive admits named_foundKexts List.mem_cons_self⟩

/-- The note is not recognized, and yet it gets the paths of the kext that it names. -/
theorem namelessNote_overwritten :
    (∀ component ∈ foundKexts, normalize component.relativePath ≠ "") ∧
    (∀ identity, project? .kernelAdd 0 namelessNote identity = none) ∧
    ∃ after log old new, mergeTargets namelessDocument foundKexts .additive [.kernelAdd] =
        .ok (after, log) ∧
      namelessDocument.items? .kernelAdd = some old ∧ old[0]? = some namelessNote ∧
      after.items? .kernelAdd = some new ∧ new[0]? ≠ some namelessNote ∧
      ⟨.kernelAdd, .pathUpdated Field.executablePath "Lilu.kext" "Contents/MacOS/Lilu",
        "Lilu.kext", 0⟩ ∈ log := by
  let executable (items : List Node) : Option String :=
    (items[0]?.bind Node.dictionary?).map (·.textOrEmpty Field.executablePath)
  have told : (mergeTargets namelessDocument foundKexts .additive [.kernelAdd]).toOption.map
      (fun merged => (merged.2.head?, (merged.1.items? .kernelAdd).map executable)) =
      some (some ⟨.kernelAdd, .pathUpdated Field.executablePath "Lilu.kext" "Contents/MacOS/Lilu",
        "Lilu.kext", 0⟩, some (some "Contents/MacOS/Lilu")) := by decide +kernel
  cases done : mergeTargets namelessDocument foundKexts .additive [.kernelAdd] with
  | error error =>
    rw [done] at told
    cases told
  | ok merged =>
    obtain ⟨after, log⟩ := merged
    rw [done] at told
    obtain ⟨first, held⟩ := Prod.mk.inj (Option.some_inj.mp told)
    obtain ⟨new, items, moved⟩ := Option.map_eq_some_iff.mp held
    refine ⟨named_foundKexts, fun _ => rfl, after, log, _, new, rfl, rfl, rfl, items, ?_,
      List.mem_of_head? first⟩
    intro same
    simp only [executable, same] at moved
    revert moved
    decide

end BootSnapshot.Merge
