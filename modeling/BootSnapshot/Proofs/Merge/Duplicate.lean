import BootSnapshot.Proofs.Finding.Duplicate
import BootSnapshot.Proofs.Merge.Settling

set_option autoImplicit false

namespace BootSnapshot.Merge

open ExistingEntry KextPaths

/-- The identity of kexts under which every component is identified by its key in the check. -/
def qualifying (components : List Component) : KextIdentity :=
  ⟨components.map fun component => ComponentPath.normalize component.relativePath⟩

theorem isShared_qualifying {components : List Component} {component : Component}
    (member : component ∈ components) :
    (qualifying components).isShared (ofComponent component).bundleKey = true :=
  List.contains_iff_mem.mpr (List.mem_map_of_mem member)

theorem knows_qualifying (components : List Component) :
    Knows (qualifying components) components :=
  fun _ twice => List.contains_iff_mem.mpr (mem_repeated.mp twice).1

def bundleItems (items : List Node) : List Node :=
  items.filter fun node => (KextIdentity.bundleOf? node).isSome

theorem bundleOf?_dictionary (fields : Dictionary Node) :
    KextIdentity.bundleOf? (.dictionary fields) =
      (fields.text? Field.bundlePath).map ComponentPath.normalize := rfl

theorem bundleOf?_of_ne_empty {fields : Dictionary Node}
    (named : (ofDictionary fields).bundleKey ≠ "") :
    KextIdentity.bundleOf? (.dictionary fields) = some (ofDictionary fields).bundleKey := by
  rw [bundleOf?_dictionary]
  cases text : fields.text? Field.bundlePath with
  | none =>
    refine absurd ?_ named
    simp only [bundleKey, ofDictionary, Dictionary.textOrEmpty, text, Option.getD_none,
      ComponentPath.normalize_eq_empty_iff]
    rfl
  | some bundle =>
    simp only [bundleKey, ofDictionary, Dictionary.textOrEmpty, text, Option.getD_some,
      Option.map_some]

theorem keyText?_kext (fields : Dictionary Node) :
    Finding.keyText? .kernelAdd (.dictionary fields) =
      (KextIdentity.bundleOf? (.dictionary fields)).map fun _ =>
        (ofDictionary fields).qualifiedKey := by
  rw [bundleOf?_dictionary]
  unfold Finding.keyText?
  cases text : fields.text? Field.bundlePath with
  | none => simp only [text, Option.map_none]
  | some bundle =>
    simp only [text, Option.map_some, qualifiedKey, bundleKey, ofDictionary,
      Dictionary.textOrEmpty, Option.getD_some]

theorem duplicateKey?_kext_other {node : Node} (other : node.dictionary? = none) :
    Finding.duplicateKey? .kernelAdd node = none := by
  cases node with
  | dictionary fields => cases other
  | sequence items => rfl
  | scalar content => cases content <;> rfl

/-- Outside the list of kexts a merge and the check agree on what identifies an item. -/
theorem duplicateKey?_of_ne {target : Target} (other : target ≠ .kernelAdd)
    (identity : KextIdentity) (node : Node) :
    Finding.duplicateKey? target node = pathOf? target identity node := by
  have text : Finding.keyText? target node = (form? target identity node).map Prod.snd := by
    cases node with
    | dictionary fields =>
      cases target with
      | kernelAdd => exact absurd rfl other
      | _ => simp only [Finding.keyText?, form?, dictionaryPath?, Option.map_map,
          Function.comp_def]
    | sequence items => rfl
    | scalar content =>
      cases content with
      | string path =>
        by_cases drivers : target = .uefiDrivers
        · simp only [Finding.keyText?, form?, drivers, ↓reduceIte, Option.map_some]
        · simp only [Finding.keyText?, form?, drivers, ↓reduceIte, Option.map_none]
      | _ => rfl
  rw [pathOf?_eq, Finding.duplicateKey?, text]

/-- They agree on kexts whose bundle path is shared. -/
theorem duplicateKey?_of_isShared {identity : KextIdentity} {fields : Dictionary Node}
    {path : String} (known : pathOf? .kernelAdd identity (.dictionary fields) = some path)
    (shared : identity.isShared (ofDictionary fields).bundleKey = true) :
    Finding.duplicateKey? .kernelAdd (.dictionary fields) = some path := by
  obtain ⟨named, identified⟩ := keyIn_of_pathOf? known
  have filled := keyIn_ne_empty identity named
  rw [keyIn_eq, if_pos shared] at identified filled
  rw [Finding.duplicateKey?, keyText?_kext, bundleOf?_of_ne_empty named, Option.map_some,
    ← identified]
  exact Option.filter_some_pos (decide_eq_true filled)

/-- The key of an item that stands for a component. -/
theorem StandsFor.duplicateKey? {target : Target} {node : Node} {component : Component}
    (stands : StandsFor target node component) (category : component.category = target.category)
    {components : List Component} (member : component ∈ components) :
    Finding.duplicateKey? target node =
      some (component.identifyingPath (qualifying components)) := by
  by_cases kexts : target = .kernelAdd
  · subst kexts
    obtain ⟨fields, rfl, -, -⟩ := stands.current rfl
    have bundle : (ofDictionary fields).bundleKey = (ofComponent component).bundleKey := by
      have plain := (keyIn_of_pathOf? (stands.path .byBundle)).2
      rw [← keyIn_ofComponent .byBundle category, keyIn_byBundle, keyIn_byBundle] at plain
      exact plain
    refine duplicateKey?_of_isShared (stands.path (qualifying components)) ?_
    rw [bundle]
    exact isShared_qualifying member
  · rw [duplicateKey?_of_ne kexts (qualifying components), stands.path]

/-- The components of a list, with paths that stand for one bundle each. -/
structure Separated (target : Target) (existing : List Node) (components : List Component) :
    Prop where
  category : ∀ component ∈ components, component.category = target.category
  named : ∀ component ∈ components, (ofComponent component).bundleKey ≠ ""
  apart : target = .kernelAdd → Apart (kextsOf (bundleItems existing) components)

/-- What a kept item is after a merge: an unknown one with the key that it had, or one that stands
for the component of its identity. -/
inductive KeptAs (target : Target) (identity : KextIdentity) (components : List Component)
    (node after : Node) : Prop where
  | unknown (absent : pathOf? target identity node = none)
      (key : Finding.duplicateKey? target after = Finding.duplicateKey? target node)
  | component (component : Component) (member : component ∈ components)
      (known : pathOf? target identity node = some (component.identifyingPath identity))
      (stands : StandsFor target after component)

section Items

variable {target : Target} {existing : List Node} {components : List Component}
  {identity : KextIdentity}

theorem mem_bundleItems {fields : Dictionary Node} (inside : .dictionary fields ∈ existing)
    {bundle : String} (text : fields.text? Field.bundlePath = some bundle) :
    .dictionary fields ∈ bundleItems existing := by
  refine List.mem_filter.mpr ⟨inside, ?_⟩
  rw [bundleOf?_dictionary, text]
  rfl

theorem mem_bundleItems_of_pathOf? {node : Node} (inside : node ∈ existing) {path : String}
    (known : pathOf? .kernelAdd identity node = some path) : node ∈ bundleItems existing := by
  obtain ⟨fields, rfl⟩ := exists_dictionary_of_pathOf? known
  refine List.mem_filter.mpr ⟨inside, ?_⟩
  rw [bundleOf?_of_ne_empty (keyIn_of_pathOf? known).1]
  rfl

/-- Components that a merge tells apart have different keys. -/
theorem Separated.identifyingPath_ne (separated : Separated target existing components)
    (knows : target = .kernelAdd → Knows identity components) {one other : Component}
    (first : one ∈ components) (second : other ∈ components)
    (apart : one.identifyingPath identity ≠ other.identifyingPath identity) :
    one.identifyingPath (qualifying components) ≠ other.identifyingPath (qualifying components) := by
  have scanned : target = .kernelAdd → Apart (components.map ofComponent) :=
    fun kexts one inside other inside' => separated.apart kexts one (List.mem_append_right _ inside)
      other (List.mem_append_right _ inside')
  have same : SameIdentities identity (qualifying components) components :=
    sameIdentities_of_knows separated.category scanned fun kexts =>
      ⟨knows kexts, knows_qualifying components⟩
  exact fun equal => apart ((same one first other second).mpr equal)

/-- The key of an unknown item is no component's. -/
theorem Separated.duplicateKey?_ne (separated : Separated target existing components) {node : Node}
    (inside : node ∈ existing) (unknown : pathOf? target identity node = none)
    {component : Component} (member : component ∈ components) :
    Finding.duplicateKey? target node ≠ some (component.identifyingPath (qualifying components)) := by
  intro key
  by_cases kexts : target = .kernelAdd
  · subst kexts
    cases dictionary : node.dictionary? with
    | none =>
      rw [duplicateKey?_kext_other dictionary] at key
      cases key
    | some fields =>
      obtain rfl := Node.eq_of_dictionary? dictionary
      have blank : (ofDictionary fields).bundleKey = "" := by
        by_contra named
        rw [pathOf?_kext, if_neg named] at unknown
        cases unknown
      obtain ⟨text, -⟩ := Option.filter_eq_some_iff.mp key
      rw [keyText?_kext] at text
      obtain ⟨bundle, found, same⟩ := Option.map_eq_some_iff.mp text
      obtain ⟨spelled, stated, -⟩ := Option.map_eq_some_iff.mp found
      rw [← keyIn_ofComponent _ (separated.category component member), keyIn_eq,
        if_pos (isShared_qualifying member)] at same
      refine (separated.apart rfl _ (ofDictionary_mem_kextsOf (mem_bundleItems inside stated) _) _
        (ofComponent_mem_kextsOf _ member) ?_).2 same
      rw [blank]
      exact (separated.named component member).symm
  · rw [duplicateKey?_of_ne kexts identity, unknown] at key
    cases key

/-- The key of an unknown item stays. -/
theorem Separated.duplicateKey?_eq (separated : Separated target existing components)
    {node after : Node} (inside : node ∈ existing)
    (carried : Carried target identity components node after)
    (unknown : pathOf? target identity node = none) :
    Finding.duplicateKey? target after = Finding.duplicateKey? target node := by
  by_cases kexts : target = .kernelAdd
  · subst kexts
    cases dictionary : node.dictionary? with
    | none => rw [carried.same (Or.inr dictionary)]
    | some fields =>
      obtain rfl := Node.eq_of_dictionary? dictionary
      cases text : fields.text? Field.bundlePath with
      | none =>
        -- The item may have the identity of a component, and then its other paths change.
        obtain ⟨changed, rfl, refreshed, -⟩ := carried.kext rfl fields rfl
        have text' : changed.text? Field.bundlePath = fields.text? Field.bundlePath :=
          refreshed.text?_eq (by decide)
        simp only [Finding.duplicateKey?, keyText?_kext, bundleOf?_dictionary, text', text,
          Option.map_none]
      | some bundle =>
        rw [same_of_carried carried (mem_bundleItems inside text) separated.category
          separated.named separated.apart unknown]
  · rw [carried.same (Or.inl kexts)]

theorem Separated.keptAs (separated : Separated target existing components) {node after : Node}
    (inside : node ∈ existing) (here : stays target identity components node = true)
    (carried : Carried target identity components node after) :
    KeptAs target identity components node after := by
  cases known : pathOf? target identity node with
  | none => exact .unknown known (separated.duplicateKey?_eq inside carried known)
  | some path =>
    obtain ⟨component, found⟩ := Option.isSome_iff_exists.mp
      ((stays_iff_of_pathOf? components known).mp here)
    obtain ⟨member, rfl⟩ := Component.firstOf?_some found
    refine .component component member known ?_
    by_cases kexts : target = .kernelAdd
    · subst kexts
      exact standsFor_of_carried carried (mem_bundleItems_of_pathOf? inside known)
        separated.category separated.apart known found
    · exact standsFor_of_carried carried inside separated.category
        (fun kexts' => absurd kexts' kexts) known found

/-- Items of one identity have one key, if a bundle path that both have is shared. -/
theorem Separated.duplicateKey?_of_pathOf? (separated : Separated target existing components)
    {one other : Node} (first : one ∈ existing) (second : other ∈ existing)
    (sharing : target = .kernelAdd → ∀ bundle, KextIdentity.bundleOf? one = some bundle →
      KextIdentity.bundleOf? other = some bundle → identity.isShared bundle = true)
    {component : Component} (member : component ∈ components)
    (known : pathOf? target identity one = some (component.identifyingPath identity))
    (known' : pathOf? target identity other = some (component.identifyingPath identity)) :
    Finding.duplicateKey? target one = some (component.identifyingPath identity) ∧
      Finding.duplicateKey? target other = some (component.identifyingPath identity) := by
  by_cases kexts : target = .kernelAdd
  · subst kexts
    have bundle {fields : Dictionary Node} (inside : .dictionary fields ∈ existing)
        (found : pathOf? .kernelAdd identity (.dictionary fields) =
          some (component.identifyingPath identity)) :
        (ofDictionary fields).bundleKey = (ofComponent component).bundleKey := by
      refine (separated.apart rfl).bundleKey_eq
        (ofDictionary_mem_kextsOf (mem_bundleItems_of_pathOf? inside found) _)
        (ofComponent_mem_kextsOf _ member) identity ?_
      rw [(keyIn_of_pathOf? found).2, keyIn_ofComponent _ (separated.category component member)]
    obtain ⟨fields, rfl⟩ := exists_dictionary_of_pathOf? known
    obtain ⟨fields', rfl⟩ := exists_dictionary_of_pathOf? known'
    have named := bundleOf?_of_ne_empty (keyIn_of_pathOf? known).1
    have named' := bundleOf?_of_ne_empty (keyIn_of_pathOf? known').1
    rw [bundle first known] at named
    rw [bundle second known'] at named'
    have shared := sharing rfl _ named named'
    constructor
    · exact duplicateKey?_of_isShared known ((bundle first known).symm ▸ shared)
    · exact duplicateKey?_of_isShared known' ((bundle second known').symm ▸ shared)
  · rw [duplicateKey?_of_ne kexts identity, duplicateKey?_of_ne kexts identity]
    exact ⟨known, known'⟩

/-- A kept item differs from one that stands for a component which a merge tells apart from it. -/
theorem Separated.differ_standsFor (separated : Separated target existing components)
    (knows : target = .kernelAdd → Knows identity components) {node after added : Node}
    (inside : node ∈ existing) (kept : KeptAs target identity components node after)
    {component : Component} (member : component ∈ components)
    (stands : StandsFor target added component)
    (apart : pathOf? target identity node ≠ some (component.identifyingPath identity)) :
    Finding.Differ target after added := by
  have key := stands.duplicateKey? (separated.category component member) member
  cases kept with
  | unknown absent same =>
    intro found first second
    rw [same] at first
    rw [key] at second
    exact separated.duplicateKey?_ne inside absent member (first.trans second.symm)
  | component other inside' known stands' =>
    refine Finding.differ_of_ne
      (stands'.duplicateKey? (separated.category other inside') inside') key ?_
    refine separated.identifyingPath_ne knows inside' member fun same => apart ?_
    rw [known, same]

/-- Items with different keys have different keys after a merge. -/
theorem Separated.differ_kept (separated : Separated target existing components)
    (knows : target = .kernelAdd → Knows identity components) {one one' other other' : Node}
    (first : one ∈ existing) (second : other ∈ existing)
    (kept : KeptAs target identity components one one')
    (kept' : KeptAs target identity components other other')
    (sharing : target = .kernelAdd → ∀ bundle, KextIdentity.bundleOf? one = some bundle →
      KextIdentity.bundleOf? other = some bundle → identity.isShared bundle = true)
    (differ : Finding.Differ target one other) : Finding.Differ target one' other' := by
  cases kept' with
  | component component member known' stands =>
    refine separated.differ_standsFor knows first kept member stands fun known => ?_
    obtain ⟨key, key'⟩ := separated.duplicateKey?_of_pathOf? first second sharing member known known'
    exact differ _ key key'
  | unknown absent' same' =>
    cases kept with
    | component component member known stands =>
      refine (separated.differ_standsFor knows second (.unknown absent' same') member stands ?_).symm
      rw [absent']
      exact (Option.some_ne_none _).symm
    | unknown absent same =>
      unfold Finding.Differ
      rw [same, same']
      exact differ

end Items

/-- A relation between any two items carries over to the items that became of them. -/
theorem pairwise_forall₂ {relation : Node → Node → Prop} {before after : Node → Node → Prop}
    {nodes afters : List Node} (all : List.Forall₂ relation nodes afters)
    (each : ∀ one ∈ nodes, ∀ other ∈ nodes, ∀ one' other', relation one one' →
      relation other other' → before one other → after one' other')
    (apart : nodes.Pairwise before) : afters.Pairwise after := by
  induction all with
  | nil => exact List.Pairwise.nil
  | @cons node changed rest others related later ih =>
    obtain ⟨head, tail⟩ := List.pairwise_cons.mp apart
    refine List.pairwise_cons.mpr ⟨fun other' member' => ?_, ih ?_ tail⟩
    · obtain ⟨other, member, related'⟩ := exists_of_mem_right later member'
      exact each node List.mem_cons_self other (List.mem_cons_of_mem _ member) _ _ related related'
        (head other member)
    · exact fun one first other second => each one (List.mem_cons_of_mem _ first) other
        (List.mem_cons_of_mem _ second)

/-- Bundle paths that two items have are shared. -/
theorem pairwise_sharing (existing : List Node) (components : List Component) :
    existing.Pairwise fun one other => ∀ bundle, KextIdentity.bundleOf? one = some bundle →
      KextIdentity.bundleOf? other = some bundle →
        (KextIdentity.ofSides existing components).isShared bundle = true := by
  have twice := List.pairwise_filterMap.mp
    (pairwise_repeated (existing.filterMap KextIdentity.bundleOf?))
  refine twice.imp fun {one other} repeats bundle first second => ?_
  exact List.contains_iff_mem.mpr
    (List.mem_append_left _ (repeats bundle first bundle second rfl))

section Lists

variable {target : Target} {existing : List Node} {components : List Component}

theorem knows_identityFor :
    target = .kernelAdd → Knows (identityFor target existing components) components := by
  rintro rfl
  exact knows_ofSides existing components

theorem Separated.standsFor_defaultEntry (separated : Separated target existing components)
    {component : Component} (member : component ∈ components) (bare : Bool) :
    StandsFor target (defaultEntry component bare) component :=
  Merge.standsFor_defaultEntry (separated.category component member)
    (separated.named component member) bare

/-- Items for components that stand for their identities differ. -/
theorem Separated.pairwise_added (separated : Separated target existing components)
    {added : List Component}
    (firsts : added.Sublist (components.eraseDupsBy
      (Component.sameIdentity (identityFor target existing components)))) (bare : Bool) :
    (added.map (defaultEntry · bare)).Pairwise (Finding.Differ target) := by
  have member {component : Component} (inside : component ∈ added) : component ∈ components := by
    have stands : (component.identifyingPath (identityFor target existing components), component) ∈
        Wanted.ofComponents (identityFor target existing components) components := by
      rw [Wanted.ofComponents_eq]
      exact List.mem_map_of_mem (firsts.subset inside)
    exact (Component.firstOf?_some ((Wanted.mem_ofComponents _ _).mp stands)).1
  have distinct := (Wanted.pairwise_eraseDupsBy _ components).sublist firsts
  refine List.pairwise_map.mpr (distinct.imp_of_mem fun {one other} first second apart => ?_)
  have key {component : Component} (inside : component ∈ added) :=
    (separated.standsFor_defaultEntry (member inside) bare).duplicateKey?
      (separated.category component (member inside)) (member inside)
  exact Finding.differ_of_ne (key first) (key second)
    (separated.identifyingPath_ne knows_identityFor (member first) (member second) apart)

/-- A clean merge makes no duplicates. -/
theorem Separated.pairwise_clean (separated : Separated target existing components) :
    (reconcile target existing components .clean).items.Pairwise (Finding.Differ target) := by
  have items : (reconcile target existing components .clean).items =
      (components.eraseDupsBy
        (Component.sameIdentity (identityFor target existing components))).map
          (defaultEntry · (target = .uefiDrivers && holdsBarePaths existing)) := by
    simp only [reconcile, Outcome.append, List.nil_append, Wanted.ofComponents_eq, List.map_map]
    rfl
  rw [items]
  exact separated.pairwise_added (List.Sublist.refl _) _

/-- An additive merge makes none where there were none. -/
theorem Separated.pairwise_additive (separated : Separated target existing components)
    (before : existing.Pairwise (Finding.Differ target)) :
    (reconcile target existing components .additive).items.Pairwise (Finding.Differ target) := by
  obtain ⟨kept, carried, items⟩ := mergedInto_reconcile target existing components
  have sharing : existing.Pairwise fun one other => target = .kernelAdd → ∀ bundle,
      KextIdentity.bundleOf? one = some bundle → KextIdentity.bundleOf? other = some bundle →
        (identityFor target existing components).isShared bundle = true := by
    refine (pairwise_sharing existing components).imp fun {one other} shared kexts => ?_
    rw [kexts]
    exact shared
  rw [items]
  refine List.pairwise_append.mpr ⟨?_, separated.pairwise_added List.filter_sublist _, ?_⟩
  · refine pairwise_forall₂ carried ?_ ((before.and sharing).sublist List.filter_sublist)
    intro one first other second one' other' becomes becomes' apart
    obtain ⟨inside, here⟩ := List.mem_filter.mp first
    obtain ⟨inside', here'⟩ := List.mem_filter.mp second
    exact separated.differ_kept knows_identityFor inside inside'
      (separated.keptAs inside here becomes) (separated.keptAs inside' here' becomes')
      apart.2 apart.1
  · intro after old added new
    obtain ⟨node, filtered, becomes⟩ := exists_of_mem_right carried old
    obtain ⟨inside, here⟩ := List.mem_filter.mp filtered
    obtain ⟨component, newcomer, rfl⟩ := List.mem_map.mp new
    obtain ⟨isFirst, absent⟩ := mem_newcomers.mp newcomer
    have member := (Component.firstOf?_some isFirst).1
    refine separated.differ_standsFor knows_identityFor inside
      (separated.keptAs inside here becomes) member
      (separated.standsFor_defaultEntry member _) fun known => ?_
    exact absent (List.mem_filterMap.mpr ⟨node, inside, known⟩)

end Lists

/-- A merge leaves no duplicates in the lists that it rebuilds, and makes none where there were
none, provided that no qualified path stands for two bundles. -/
theorem merge_makes_no_duplicates {document after : Document} {discovered : List Component}
    {mode : Mode} {targets : List Target} {log : ChangeLog}
    (named : ∀ component ∈ discovered, ComponentPath.normalize component.relativePath ≠ "")
    (apart : Apart (kextsOf (bundleItems ((document.items? .kernelAdd).getD []))
      (ofCategory discovered .kext)))
    (done : mergeTargets document discovered mode targets = .ok (after, log)) :
    (mode = .clean → (∀ target, target ∈ targets) → Finding.duplicates after = []) ∧
      (Finding.duplicates document = [] → Finding.duplicates after = []) := by
  have merged := merged_of_mergeTargets done
  have separated (target : Target) : Separated target ((document.items? target).getD [])
      (ofCategory discovered target.category) := by
    refine ⟨fun component inside => category_of_mem inside, fun component inside => ?_, ?_⟩
    · exact named component (List.mem_filter.mp inside).1
    · rintro rfl
      exact apart
  have clean (target : Target) (member : target ∈ targets) (rebuilt : mode = .clean) :
      ((after.items? target).getD []).Pairwise (Finding.Differ target) := by
    rw [merged.lists target member, rebuilt]
    exact (separated target).pairwise_clean
  constructor
  · intro rebuilt all
    exact (Finding.duplicates_eq_nil_iff after).mpr fun target => clean target (all target) rebuilt
  · intro none
    refine (Finding.duplicates_eq_nil_iff after).mpr fun target => ?_
    have before := (Finding.duplicates_eq_nil_iff document).mp none target
    by_cases member : target ∈ targets
    · cases kind : mode with
      | clean => exact clean target member kind
      | additive =>
        rw [merged.lists target member, kind]
        exact (separated target).pairwise_additive before
    · rw [merged.items?_eq member]
      exact before

/-- One of two kexts of a shared bundle path stays, and a kext of another bundle is new. -/
theorem doubledDocument_without_duplicates :
    (∀ component ∈ remainingKexts, ComponentPath.normalize component.relativePath ≠ "") ∧
    Apart (kextsOf (bundleItems ((doubledDocument.items? .kernelAdd).getD []))
      (ofCategory remainingKexts .kext)) ∧
    Finding.duplicates doubledDocument = [] ∧
    (∃ after log, merge doubledDocument remainingKexts .additive = .ok (after, log) ∧
      Finding.duplicates after = []) ∧
    ∃ after log, merge doubledDocument remainingKexts .clean = .ok (after, log) ∧
      Finding.duplicates after = [] := by
  have named : ∀ component ∈ remainingKexts,
      ComponentPath.normalize component.relativePath ≠ "" := by decide +kernel
  have apart : Apart (kextsOf (bundleItems ((doubledDocument.items? .kernelAdd).getD []))
      (ofCategory remainingKexts .kext)) := by decide +kernel
  have none : Finding.duplicates doubledDocument = [] := by decide +kernel
  have admits : ∀ target ∈ Target.all, doubledDocument.Admits target := by
    intro target _
    cases target <;> exact admits_of_existingItems rfl
  obtain ⟨after, log, done, -⟩ := mergeTargets_of_admits remainingKexts .additive admits
  obtain ⟨after', log', done', -⟩ := mergeTargets_of_admits remainingKexts .clean admits
  exact ⟨named, apart, none,
    ⟨after, log, done, (merge_makes_no_duplicates named apart done).2 none⟩,
    after', log', done', (merge_makes_no_duplicates named apart done').1 rfl Target.mem_all⟩

end BootSnapshot.Merge
