import BootSnapshot.Proofs.Merge.Additive
import BootSnapshot.Proofs.Merge.Settled

set_option autoImplicit false

namespace BootSnapshot.Merge

open Document ExistingEntry KextPaths

section Items

variable {target : Target} {identity : KextIdentity} {components : List Component}

theorem standsFor_defaultEntry {component : Component}
    (category : component.category = target.category)
    (named : (ofComponent component).bundleKey ≠ "") (bare : Bool) :
    StandsFor target (defaultEntry component bare) component where
  path := pathOf?_defaultEntry category named bare
  current kexts := by
    subst kexts
    have paths := paths_defaultEntry category
    exact ⟨_, defaultEntry_kext category bare, congrArg KextPaths.executable paths,
      congrArg KextPaths.plist paths⟩

theorem standsFor_of_isFirst {component : Component}
    (isFirst : IsFirst identity components component)
    (category : ∀ component ∈ components, component.category = target.category)
    (named : ∀ component ∈ components, (ofComponent component).bundleKey ≠ "") (bare : Bool) :
    StandsFor target (defaultEntry component bare) component := by
  have inside := (Component.firstOf?_some isFirst).1
  exact standsFor_defaultEntry (category component inside) (named component inside) bare

/-- A kept item that was recognized stands for the component of its identity. -/
theorem standsFor_of_carried {existing : List Node} {node after : Node}
    (carried : Carried target identity components node after) (inside : node ∈ existing)
    (category : ∀ component ∈ components, component.category = target.category)
    (apart : target = .kernelAdd → Apart (kextsOf existing components)) {path : String}
    (known : pathOf? target identity node = some path) {component : Component}
    (found : Component.firstOf? identity components path = some component) :
    StandsFor target after component := by
  obtain ⟨member, same⟩ := Component.firstOf?_some found
  by_cases kexts : target = .kernelAdd
  · subst kexts
    obtain ⟨fields, rfl⟩ := exists_dictionary_of_pathOf? known
    obtain ⟨changed, rfl, refreshed, current⟩ := carried.kext rfl fields rfl
    obtain ⟨other, found', executable, plist⟩ := current path known
    obtain rfl : component = other := Option.some_inj.mp (found.symm.trans found')
    obtain ⟨named, identified⟩ := keyIn_of_pathOf? known
    have kext : component.category = .kext := category component member
    have bundle : (ofDictionary fields).bundleKey = (ofComponent component).bundleKey := by
      refine (apart rfl).bundleKey_eq (ofDictionary_mem_kextsOf inside components)
        (ofComponent_mem_kextsOf existing member) identity ?_
      rw [identified, keyIn_ofComponent identity kext, same]
    have bundle' : (ofDictionary changed).bundleKey = (ofComponent component).bundleKey :=
      (congrArg ComponentPath.normalize refreshed.bundle).trans bundle
    exact ⟨pathOf?_of_paths kext bundle' (bundle ▸ named) executable plist,
      fun _ => ⟨changed, rfl, executable, plist⟩⟩
  · obtain rfl := carried.same (Or.inl kexts)
    have path := identifyingPath_of_ne kexts (category component member)
    refine ⟨fun another => ?_, fun kexts' => absurd kexts' kexts⟩
    rw [pathOf?_congr kexts another identity, known, ← same, path, path]

/-- No component has the identity of an item that is not recognized. -/
theorem unmatched_of_unknown {existing : List Node} {fields : Dictionary Node}
    (inside : .dictionary fields ∈ existing)
    (category : ∀ component ∈ components, component.category = .kext)
    (named : ∀ component ∈ components, (ofComponent component).bundleKey ≠ "")
    (apart : Apart (kextsOf existing components))
    (unknown : pathOf? .kernelAdd identity (.dictionary fields) = none) (another : KextIdentity) :
    Component.firstOf? another components (another.ofDictionary fields) = none := by
  refine Component.firstOf?_eq_none_iff.mpr fun component member same => ?_
  have blank : (ofDictionary fields).bundleKey = "" := by
    by_contra some
    rw [pathOf?_kext, if_neg some] at unknown
    cases unknown
  have bundle : (ofComponent component).bundleKey = (ofDictionary fields).bundleKey := by
    refine apart.bundleKey_eq (ofComponent_mem_kextsOf existing member)
      (ofDictionary_mem_kextsOf inside components) another ?_
    rw [keyIn_ofComponent another (category component member), same]
    rfl
  exact named component member (bundle.trans blank)

/-- A kept item that is not recognized stays as it is. -/
theorem same_of_carried {existing : List Node} {node after : Node}
    (carried : Carried target identity components node after) (inside : node ∈ existing)
    (category : ∀ component ∈ components, component.category = target.category)
    (named : ∀ component ∈ components, (ofComponent component).bundleKey ≠ "")
    (apart : target = .kernelAdd → Apart (kextsOf existing components))
    (unknown : pathOf? target identity node = none) : after = node := by
  by_cases kexts : target = .kernelAdd
  · subst kexts
    cases dictionary : node.dictionary? with
    | none => exact carried.same (Or.inr dictionary)
    | some fields =>
      obtain rfl := Node.eq_of_dictionary? dictionary
      obtain ⟨changed, rfl, refreshed, -⟩ := carried.kext rfl fields rfl
      have unmatched := unmatched_of_unknown inside category named (apart rfl) unknown identity
      rw [refreshed.unmatched unmatched]
  · exact carried.same (Or.inl kexts)

theorem foreign_of_carried {existing : List Node} {node after : Node}
    (carried : Carried target identity components node after) (inside : node ∈ existing)
    (category : ∀ component ∈ components, component.category = target.category)
    (named : ∀ component ∈ components, (ofComponent component).bundleKey ≠ "")
    (apart : target = .kernelAdd → Apart (kextsOf existing components))
    (unknown : pathOf? target identity node = none) : Foreign target components after := by
  have unmatched : target = .kernelAdd → ∀ fields, node = .dictionary fields → ∀ another,
      Component.firstOf? another components (another.ofDictionary fields) = none := by
    rintro rfl fields rfl another
    exact unmatched_of_unknown inside category named (apart rfl) unknown another
  obtain rfl := same_of_carried carried inside category named apart unknown
  exact ⟨pathOf?_eq_none_congr unknown, unmatched⟩

theorem exists_of_mem_left {relation : Node → Node → Prop} {befores afters : List Node}
    (all : List.Forall₂ relation befores afters) {before : Node} (member : before ∈ befores) :
    ∃ after ∈ afters, relation before after := by
  induction all with
  | nil => cases member
  | cons related _ ih =>
    rcases List.mem_cons.mp member with rfl | later
    · exact ⟨_, List.mem_cons_self, related⟩
    · obtain ⟨after, inside, related⟩ := ih later
      exact ⟨after, List.mem_cons_of_mem _ inside, related⟩

theorem exists_of_mem_right {relation : Node → Node → Prop} {befores afters : List Node}
    (all : List.Forall₂ relation befores afters) {after : Node} (member : after ∈ afters) :
    ∃ before ∈ befores, relation before after := by
  have flipped : List.Forall₂ (flip relation) afters befores := List.Forall₂.flip all
  exact exists_of_mem_left flipped member

theorem mem_newcomers {existing : List Node} {component : Component} :
    component ∈ newcomers target identity existing components ↔
      IsFirst identity components component ∧
        component.identifyingPath identity ∉ existing.filterMap (pathOf? target identity) := by
  have pair : component ∈ components.eraseDupsBy (Component.sameIdentity identity) ↔
      (component.identifyingPath identity, component) ∈
        Wanted.ofComponents identity components := by
    rw [Wanted.ofComponents_eq, List.mem_map]
    constructor
    · intro member
      exact ⟨component, member, rfl⟩
    · rintro ⟨other, member, same⟩
      exact (Prod.mk.inj same).2 ▸ member
  unfold newcomers
  rw [List.mem_filter, pair, Wanted.mem_ofComponents, decide_eq_true_eq]
  rfl

end Items

section Merged

variable {target : Target} {existing : List Node} {components : List Component}

/-- An additive merge leaves settled lists, provided that no identifying path can stand for two
bundles. -/
theorem settled_additive
    (category : ∀ component ∈ components, component.category = target.category)
    (named : ∀ component ∈ components, (ofComponent component).bundleKey ≠ "")
    (apart : target = .kernelAdd → Apart (kextsOf existing components)) :
    Settled target (identityFor target existing components) components
      (reconcile target existing components .additive).items := by
  obtain ⟨kept, carried, items⟩ := mergedInto_reconcile target existing components
  rw [items]
  constructor
  · intro after member
    rcases List.mem_append.mp member with old | new
    · obtain ⟨node, filtered, carried⟩ := exists_of_mem_right carried old
      obtain ⟨inside, stays⟩ := List.mem_filter.mp filtered
      cases known : pathOf? target (identityFor target existing components) node with
      | none => exact Or.inl (foreign_of_carried carried inside category named apart known)
      | some path =>
        obtain ⟨component, found⟩ := Option.isSome_iff_exists.mp
          ((stays_iff_of_pathOf? components known).mp stays)
        exact Or.inr ⟨component, (isFirst_of_firstOf? found).1,
          standsFor_of_carried carried inside category apart known found⟩
    · obtain ⟨component, added, rfl⟩ := List.mem_map.mp new
      have isFirst := (mem_newcomers.mp added).1
      exact Or.inr ⟨component, isFirst, standsFor_of_isFirst isFirst category named _⟩
  -- A component whose identity an item had before the merge is found among the kept items.
  · intro component isFirst
    by_cases present : component.identifyingPath (identityFor target existing components) ∈
        existing.filterMap (pathOf? target (identityFor target existing components))
    · obtain ⟨node, old, known⟩ := List.mem_filterMap.mp present
      have inside := (Component.firstOf?_some isFirst).1
      have stays := (stays_iff_of_pathOf? components known).mpr (Component.firstOf?_isSome inside)
      obtain ⟨after, member, carried⟩ :=
        exists_of_mem_left carried (List.mem_filter.mpr ⟨old, stays⟩)
      exact ⟨after, List.mem_append_left _ member,
        standsFor_of_carried carried old category apart known isFirst⟩
    · have added := mem_newcomers.mpr ⟨isFirst, present⟩
      exact ⟨_, List.mem_append_right _ (List.mem_map_of_mem added),
        standsFor_of_isFirst isFirst category named _⟩

theorem settled_clean
    (category : ∀ component ∈ components, component.category = target.category)
    (named : ∀ component ∈ components, (ofComponent component).bundleKey ≠ "") :
    Settled target (identityFor target existing components) components
      (reconcile target existing components .clean).items := by
  constructor
  · intro node member
    obtain ⟨⟨path, component⟩, wanted, rfl⟩ := List.mem_map.mp member
    obtain ⟨isFirst, -⟩ := isFirst_of_firstOf? ((Wanted.mem_ofComponents _ _).mp wanted)
    exact Or.inr ⟨component, isFirst, standsFor_of_isFirst isFirst category named _⟩
  · intro component isFirst
    have wanted := (Wanted.mem_ofComponents _ _).mpr isFirst
    exact ⟨_, List.mem_map_of_mem wanted, standsFor_of_isFirst isFirst category named _⟩

theorem sameIdentities_identityFor {items : List Node}
    (category : ∀ component ∈ components, component.category = target.category)
    (apart : target = .kernelAdd → Apart (components.map ofComponent)) :
    SameIdentities (identityFor target existing components) (identityFor target items components)
      components := by
  refine sameIdentities_of_knows category apart ?_
  rintro rfl
  exact ⟨knows_ofSides existing components, knows_ofSides items components⟩

/-- What a merge of a list leaves stays as it is in a second one. -/
theorem reconcile_reconcile
    (category : ∀ component ∈ components, component.category = target.category)
    (named : ∀ component ∈ components, (ofComponent component).bundleKey ≠ "")
    (apart : target = .kernelAdd → Apart (kextsOf existing components)) (mode : Mode) :
    reconcile target (reconcile target existing components mode).items components .additive =
      ⟨(reconcile target existing components mode).items, []⟩ := by
  have settled : Settled target (identityFor target existing components) components
      (reconcile target existing components mode).items := by
    cases mode with
    | additive => exact settled_additive category named apart
    | clean => exact settled_clean category named
  refine settled.reconcile_eq (sameIdentities_identityFor category fun kexts => ?_)
  exact fun one first other second =>
    apart kexts one (List.mem_append_right _ first) other (List.mem_append_right _ second)

end Merged

theorem commitAll_of_items? {document : Document} {staged : List (Target × Outcome)}
    (held : ∀ entry ∈ staged, document.items? entry.1 = some entry.2.items) :
    commitAll document staged = document := by
  induction staged with
  | nil => rfl
  | cons entry rest ih =>
    have head := commit_of_items? (held entry List.mem_cons_self)
    have tail := ih fun other member => held other (List.mem_cons_of_mem entry member)
    change commitAll (commit document entry.1 entry.2.items) rest = document
    rw [head, tail]

/-- A document whose lists all stay as they are stays as it is. -/
theorem mergeTargets_of_settled {document : Document} {discovered : List Component}
    {targets : List Target}
    (settled : ∀ target ∈ targets, ∃ items, document.items? target = some items ∧
      reconcile target items (ofCategory discovered target.category) .additive = ⟨items, []⟩) :
    mergeTargets document discovered .additive targets = .ok (document, []) := by
  let staged := (Target.all.filter (· ∈ targets)).map fun target =>
    (target, outcomeOf document discovered .additive target)
  have admits : ∀ target ∈ Target.all.filter (· ∈ targets), document.Admits target := by
    intro target member
    obtain ⟨items, found, -⟩ := settled target (of_decide_eq_true (List.mem_filter.mp member).2)
    exact admits_of_items? found
  have held : ∀ entry ∈ staged, document.items? entry.1 = some entry.2.items ∧
      entry.2.changes = [] := by
    intro entry member
    obtain ⟨target, inside, rfl⟩ := List.mem_map.mp member
    obtain ⟨items, found, same⟩ := settled target (of_decide_eq_true (List.mem_filter.mp inside).2)
    simp only [outcomeOf, found, Option.getD_some, same, and_self]
  have staging : stage document discovered .additive (Target.all.filter (· ∈ targets)) =
      .ok staged := stage_of_admits discovered .additive admits
  have written := commitAll_of_items? fun entry member => (held entry member).1
  have silent : (staged.flatMap fun entry => entry.2.changes) = [] :=
    List.flatMap_eq_nil_iff.mpr fun entry member => (held entry member).2
  unfold mergeTargets
  simp only [staging, written]
  exact congrArg (fun log => Except.ok (document, log)) silent

/-- After a merge of either mode an additive merge with the same components succeeds, changes
nothing and reports nothing, provided that no qualified path stands for two bundles. -/
theorem merge_settles_in_one_step {document after : Document} {discovered : List Component}
    {mode : Mode} {log : ChangeLog}
    (named : ∀ component ∈ discovered, ComponentPath.normalize component.relativePath ≠ "")
    (apart : Apart (kextsOf ((document.items? .kernelAdd).getD []) (ofCategory discovered .kext)))
    (done : merge document discovered mode = .ok (after, log)) :
    merge after discovered .additive = .ok (after, []) := by
  have admits := admits_of_mergeTargets done
  obtain ⟨result, log', done', merged⟩ := mergeTargets_of_admits discovered mode admits
  obtain ⟨rfl, -⟩ : result = after ∧ log' = log :=
    Prod.mk.inj (Except.ok.inj (done'.symm.trans done))
  refine mergeTargets_of_settled fun target member => ⟨_, merged.lists target member, ?_⟩
  refine reconcile_reconcile (fun component inside => ?_) (fun component inside => ?_) ?_ mode
  · exact of_decide_eq_true (List.mem_filter.mp inside).2
  · exact named component (List.mem_filter.mp inside).1
  · rintro rfl
    exact apart

/-- Two kexts of one bundle, whose path is shared because of them. -/
def doubledKexts : List Node :=
  [.dictionary ⟨[(Field.bundlePath, .ofText "A.kext"), (Field.executablePath, .ofText "X")]⟩,
    .dictionary ⟨[(Field.bundlePath, .ofText "A.kext"), (Field.executablePath, .ofText "Y")]⟩]

def doubledDocument : Document :=
  ⟨⟨[("Kernel", .dictionary ⟨[("Add", .sequence doubledKexts)]⟩)]⟩⟩

def remainingKexts : List Component :=
  [{ relativePath := "A.kext", category := .kext, executablePath := some "Y" },
    { relativePath := "B.kext", category := .kext, executablePath := some "Y" }]

/-- The bundle path is shared in the first merge and no more in the second. -/
theorem doubledDocument_settles :
    (∀ component ∈ remainingKexts, ComponentPath.normalize component.relativePath ≠ "") ∧
    Apart (kextsOf ((doubledDocument.items? .kernelAdd).getD [])
      (ofCategory remainingKexts .kext)) ∧
    ∃ after log, merge doubledDocument remainingKexts .additive = .ok (after, log) ∧
      merge after remainingKexts .additive = .ok (after, []) := by
  have named : ∀ component ∈ remainingKexts,
      ComponentPath.normalize component.relativePath ≠ "" := by decide +kernel
  have apart : Apart (kextsOf ((doubledDocument.items? .kernelAdd).getD [])
      (ofCategory remainingKexts .kext)) := by decide +kernel
  have admits : ∀ target ∈ Target.all, doubledDocument.Admits target := by
    have read (target : Target) : ∃ items, existingItems doubledDocument target = .ok items := by
      cases target <;> exact ⟨_, rfl⟩
    intro target _
    obtain ⟨items, found⟩ := read target
    exact admits_of_existingItems found
  obtain ⟨after, log, done, -⟩ := mergeTargets_of_admits remainingKexts .additive admits
  exact ⟨named, apart, after, log, done, merge_settles_in_one_step named apart done⟩

end BootSnapshot.Merge
