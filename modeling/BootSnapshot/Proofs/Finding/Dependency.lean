import Mathlib.Data.List.Chain
import Mathlib.Data.List.ReduceOption
import Mathlib.Order.Bounds.Basic
import BootSnapshot.Finding.Dependency
import BootSnapshot.Proofs.Component.Path

set_option autoImplicit false

namespace BootSnapshot

/-- A rule with one of the kexts that it requires. -/
abbrev Demand := DependencyRule × String

namespace DependencyRule

def demands : List Demand :=
  table.flatMap fun rule => rule.requires.map fun required => (rule, required)

/-- A rule demands that one kext be loaded before another. -/
def LoadsAfter (subject required : String) : Prop :=
  ∃ rule ∈ table, rule.requiresBefore = true ∧ rule.subject = subject ∧ required ∈ rule.requires

theorem mem_demands {rule : DependencyRule} {required : String} :
    (rule, required) ∈ demands ↔ rule ∈ table ∧ required ∈ rule.requires := by
  simp only [demands, List.mem_flatMap, List.mem_map, Prod.mk.injEq]
  constructor
  · rintro ⟨_, inside, _, needed, rfl, rfl⟩
    exact ⟨inside, needed⟩
  · rintro ⟨inside, needed⟩
    exact ⟨rule, inside, required, needed, rfl, rfl⟩

/-- No kext is loaded before itself. -/
theorem LoadsAfter.ne {subject required : String} (later : LoadsAfter subject required) :
    required ≠ subject := by
  obtain ⟨rule, inside, -, rfl, needed⟩ := later
  have apart : ∀ rule ∈ table, rule.subject ∉ rule.requires := by decide
  rintro rfl
  exact apart rule inside needed

end DependencyRule

namespace Finding

/-- The items of the list of kexts; a document without the list has none. -/
def kexts (document : Document) : List Node := (document.items? .kernelAdd).getD []

/-- At a position there is an item that is recognized, enabled, and a kext of the given name. -/
def EnabledAt (items : List Node) (name : String) (index : Nat) : Prop :=
  ∃ item entry bundle, items[index]? = some item ∧
    ExistingEntry.project? .kernelAdd index item .byBundle = some entry ∧
    entry.isEnabled = true ∧
    entry.dictionary?.bind (·.text? Field.bundlePath) = some bundle ∧
    componentName bundle = name

/-- The first position of an enabled kext of the given name. -/
def LoadedAt (items : List Node) (name : String) (index : Nat) : Prop :=
  IsLeast {index | EnabledAt items name index} index

/-- An item is recognized alike at all positions. -/
theorem enabledName?_eq_some_iff {item : Node} {name : String} (index : Nat) :
    enabledName? item = some name ↔ ∃ entry bundle,
      ExistingEntry.project? .kernelAdd index item .byBundle = some entry ∧
      entry.isEnabled = true ∧
      entry.dictionary?.bind (·.text? Field.bundlePath) = some bundle ∧
      componentName bundle = name := by
  unfold enabledName? ExistingEntry.project?
  cases ExistingEntry.form? .kernelAdd .byBundle item with
  | none => simp
  | some formed =>
    obtain ⟨form, path⟩ := formed
    by_cases blank : path = ""
    · simp [blank]
    · cases form with
      | dictionary fields =>
        cases on : (fields.bool? Field.enabled).getD false <;>
          simp [blank, on, ExistingEntry.isEnabled, ExistingEntry.dictionary?]
      | barePath text => simp [blank, ExistingEntry.isEnabled, ExistingEntry.dictionary?]

theorem enabledAt_iff {items : List Node} {name : String} {index : Nat} :
    EnabledAt items name index ↔ (items[index]?).bind enabledName? = some name := by
  rw [Option.bind_eq_some_iff]
  constructor
  · rintro ⟨item, entry, bundle, held, recognized⟩
    exact ⟨item, held, (enabledName?_eq_some_iff index).mpr ⟨entry, bundle, recognized⟩⟩
  · rintro ⟨item, held, named⟩
    obtain ⟨entry, bundle, recognized⟩ := (enabledName?_eq_some_iff index).mp named
    exact ⟨item, entry, bundle, held, recognized⟩

/-- One position has one name. -/
theorem EnabledAt.name_eq {items : List Node} {one other : String} {index : Nat}
    (first : EnabledAt items one index) (second : EnabledAt items other index) : one = other :=
  Option.some_inj.mp ((enabledAt_iff.mp first).symm.trans (enabledAt_iff.mp second))

theorem position?_eq_some_iff {items : List Node} {name : String} {index : Nat} :
    position? items name = some index ↔ LoadedAt items name index := by
  unfold position?
  rw [List.findIdx?_eq_some_iff_getElem]
  constructor
  · rintro ⟨inside, named, before⟩
    refine ⟨enabledAt_iff.mpr ?_, fun other enabled => Nat.le_of_not_lt fun earlier => ?_⟩
    · rw [List.getElem?_eq_getElem inside, Option.bind_some]
      exact of_decide_eq_true named
    · have held := enabledAt_iff.mp enabled
      rw [List.getElem?_eq_getElem (Nat.lt_trans earlier inside), Option.bind_some] at held
      exact before other earlier (decide_eq_true held)
  · rintro ⟨enabled, least⟩
    obtain ⟨item, held, named⟩ := Option.bind_eq_some_iff.mp (enabledAt_iff.mp enabled)
    obtain ⟨inside, rfl⟩ := List.getElem?_eq_some_iff.mp held
    refine ⟨inside, decide_eq_true named, fun other earlier found => ?_⟩
    refine Nat.not_le_of_lt earlier (least (enabledAt_iff.mpr ?_))
    rw [List.getElem?_eq_getElem (Nat.lt_trans earlier inside), Option.bind_some]
    exact of_decide_eq_true found

theorem position?_eq_none_iff {items : List Node} {name : String} :
    position? items name = none ↔ ∀ index, ¬ EnabledAt items name index := by
  unfold position?
  rw [List.findIdx?_eq_none_iff]
  constructor
  · intro absent index enabled
    obtain ⟨item, held, named⟩ := Option.bind_eq_some_iff.mp (enabledAt_iff.mp enabled)
    exact of_decide_eq_false (absent item (List.mem_of_getElem? held)) named
  · intro absent item inside
    obtain ⟨index, held⟩ := List.mem_iff_getElem?.mp inside
    refine decide_eq_false fun named => absent index (enabledAt_iff.mpr ?_)
    rw [held, Option.bind_some, named]

/-- Positions are told by the names of the items alone. -/
theorem position?_eq_findIdx? (items : List Node) (name : String) :
    position? items name = (items.map enabledName?).findIdx? (· = some name) := by
  rw [List.findIdx?_map]
  rfl

/-- Which kexts are enabled does not depend on the order of the items. -/
theorem isSome_position?_of_perm {items items' : List Node} (perm : items.Perm items')
    (name : String) : (position? items name).isSome = (position? items' name).isSome := by
  unfold position?
  rw [List.findIdx?_isSome, List.findIdx?_isSome]
  exact perm.any_eq

/-- A finding of this check at a position of the list of kexts. -/
structure Tells (finding : Finding) (severity : Severity) (index : Nat) (message : String) :
    Prop where
  check : finding.check = .dependency
  severity : finding.severity = severity
  path : finding.path = Target.kernelAdd.path ++ [.index index]
  message : finding.message = message

/-- What is to be told about a demand. -/
inductive Verdict (items : List Node) (demand : Demand) : Option Finding → Prop
  /-- The kext that demands something is not loaded. -/
  | idle (absent : ∀ index, ¬ EnabledAt items demand.1.subject index) : Verdict items demand none
  | missing {index : Nat} {finding : Finding} (loaded : LoadedAt items demand.1.subject index)
    (absent : ∀ position, ¬ EnabledAt items demand.2 position)
    (tells : finding.Tells .error index
      (demand.1.subject ++ " requires " ++ demand.2 ++ ", not present/enabled")) :
    Verdict items demand (some finding)
  | late {index position : Nat} {finding : Finding} (loaded : LoadedAt items demand.1.subject index)
    (required : LoadedAt items demand.2 position) (ordered : demand.1.requiresBefore = true)
    (after : index < position)
    (tells : finding.Tells .warning index
      (demand.1.subject ++ " should load after " ++ demand.2)) :
    Verdict items demand (some finding)
  | met {index position : Nat} (loaded : LoadedAt items demand.1.subject index)
    (required : LoadedAt items demand.2 position)
    (before : demand.1.requiresBefore = true → position ≤ index) : Verdict items demand none

/-- The finding about a demand, if there is one. -/
def verdict? (items : List Node) (demand : Demand) : Option Finding :=
  (position? items demand.1.subject).bind fun index =>
    requirementFinding items demand.1 index demand.2

theorem dependencies_eq (document : Document) :
    dependencies document = DependencyRule.demands.filterMap (verdict? (kexts document)) := by
  unfold dependencies DependencyRule.demands
  rw [List.filterMap_flatMap]
  refine List.flatMap_congr fun rule _ => ?_
  rw [List.filterMap_map]
  unfold ruleFindings
  cases first : position? (kexts document) rule.subject with
  | none =>
    unfold kexts at first
    rw [first]
    refine (List.filterMap_eq_nil_iff.mpr fun required _ => ?_).symm
    simp [verdict?, kexts, first]
  | some index =>
    unfold kexts at first
    rw [first]
    refine List.filterMap_congr fun required _ => ?_
    simp [verdict?, kexts, first]

theorem verdict_verdict? (items : List Node) (demand : Demand) :
    Verdict items demand (verdict? items demand) := by
  unfold verdict?
  cases first : position? items demand.1.subject with
  | none => exact .idle (position?_eq_none_iff.mp first)
  | some index =>
    have loaded := position?_eq_some_iff.mp first
    rw [Option.bind_some, requirementFinding]
    cases second : position? items demand.2 with
    | none => exact .missing loaded (position?_eq_none_iff.mp second) ⟨rfl, rfl, rfl, rfl⟩
    | some position =>
      have required := position?_eq_some_iff.mp second
      dsimp only
      split
      · rename_i unmet
        exact .late loaded required unmet.1 unmet.2 ⟨rfl, rfl, rfl, rfl⟩
      · rename_i unmet
        exact .met loaded required fun ordered =>
          Nat.le_of_not_lt fun after => unmet ⟨ordered, after⟩

def dependencyErrors (document : Document) : List String :=
  ((dependencies document).filter (·.severity = .error)).map message

/-- The message about a demand that is an error. -/
def errorText? (items : List Node) (demand : Demand) : Option String :=
  if (position? items demand.1.subject).isSome && ! (position? items demand.2).isSome then
    some (demand.1.subject ++ " requires " ++ demand.2 ++ ", not present/enabled")
  else none

theorem errorText?_eq (items : List Node) (demand : Demand) :
    ((verdict? items demand).filter (·.severity = .error)).map message =
      errorText? items demand := by
  unfold verdict? errorText?
  cases position? items demand.1.subject with
  | none => rfl
  | some index =>
    rw [Option.bind_some, requirementFinding]
    cases position? items demand.2 with
    | none => rfl
    | some position =>
      dsimp only
      split <;> rfl

theorem dependencyErrors_eq (document : Document) :
    dependencyErrors document = DependencyRule.demands.filterMap (errorText? (kexts document)) := by
  unfold dependencyErrors
  rw [dependencies_eq, List.filter_filterMap, List.map_filterMap]
  exact List.filterMap_congr fun demand _ => errorText?_eq _ demand

theorem dependencyErrors_of_perm {document document' : Document}
    (perm : (kexts document).Perm (kexts document')) :
    dependencyErrors document = dependencyErrors document' := by
  rw [dependencyErrors_eq, dependencyErrors_eq]
  refine List.filterMap_congr fun demand _ => ?_
  rw [errorText?, errorText?, isSome_position?_of_perm perm, isSome_position?_of_perm perm]

/-- Without findings a kext that one needs is loaded before it. -/
theorem loaded_before {document : Document} (clean : dependencies document = [])
    {subject required : String} (later : DependencyRule.LoadsAfter subject required) {index : Nat}
    (loaded : LoadedAt (kexts document) subject index) :
    ∃ position, LoadedAt (kexts document) required position ∧ position < index := by
  have differ := later.ne
  obtain ⟨rule, inside, ordered, rfl, needed⟩ := later
  rw [dependencies_eq, List.filterMap_eq_nil_iff] at clean
  have silent := clean (rule, required) (DependencyRule.mem_demands.mpr ⟨inside, needed⟩)
  have verdict := verdict_verdict? (kexts document) (rule, required)
  rw [silent] at verdict
  cases verdict with
  | idle absent => exact absurd loaded.1 (absent index)
  | @met index' position loaded' second before =>
    obtain rfl : index' = index := loaded'.unique loaded
    refine ⟨position, second, Nat.lt_of_le_of_ne (before ordered) ?_⟩
    rintro rfl
    exact differ (second.1.name_eq loaded.1)

/-- Along a chain of rules every kext is loaded before the one that needs it. -/
theorem loaded_along {document : Document} (clean : dependencies document = [])
    {subject : String} {names : List String}
    (chain : (subject :: names).IsChain DependencyRule.LoadsAfter) {index : Nat}
    (loaded : LoadedAt (kexts document) subject index) :
    ∃ positions, List.Forall₂ (LoadedAt (kexts document)) names positions ∧
      (index :: positions).Pairwise (· > ·) := by
  induction names generalizing subject index with
  | nil => exact ⟨[], .nil, List.pairwise_singleton _ index⟩
  | cons required names ih =>
    rw [List.isChain_cons_cons] at chain
    obtain ⟨position, second, earlier⟩ := loaded_before clean chain.1 loaded
    obtain ⟨positions, held, falling⟩ := ih chain.2 second
    refine ⟨position :: positions, .cons second held, List.pairwise_cons.mpr ⟨?_, falling⟩⟩
    intro other member
    rcases List.mem_cons.mp member with rfl | later
    · exact earlier
    · exact Nat.lt_trans ((List.pairwise_cons.mp falling).1 other later) earlier

end Finding

/-- The check of dependencies gives one verdict on each thing that a rule demands, in the order of
the table, and tells what the verdicts tell. Its errors do not depend on the order of the list of
kexts. Where it tells nothing, all kexts along a chain of rules that starts at an enabled one are
enabled, each at an earlier first position than the one that needs it. -/
theorem dependencies_exact (document : Document) :
    (∃ verdicts, List.Forall₂ (Finding.Verdict (Finding.kexts document)) DependencyRule.demands
        verdicts ∧
      Finding.dependencies document = verdicts.reduceOption) ∧
    (∀ document', (Finding.kexts document).Perm (Finding.kexts document') →
      Finding.dependencyErrors document = Finding.dependencyErrors document') ∧
    (Finding.dependencies document = [] → ∀ subject names index,
      (subject :: names).IsChain DependencyRule.LoadsAfter →
      Finding.LoadedAt (Finding.kexts document) subject index →
      ∃ positions, List.Forall₂ (Finding.LoadedAt (Finding.kexts document)) names positions ∧
        (index :: positions).Pairwise (· > ·)) := by
  refine ⟨⟨DependencyRule.demands.map (Finding.verdict? (Finding.kexts document)), ?_, ?_⟩,
    fun document' perm => Finding.dependencyErrors_of_perm perm,
    fun clean subject names index chain loaded => Finding.loaded_along clean chain loaded⟩
  · rw [List.forall₂_map_right_iff, List.forall₂_same]
    exact fun demand _ => Finding.verdict_verdict? _ demand
  · rw [Finding.dependencies_eq, List.reduceOption, List.filterMap_map]
    rfl

namespace Finding

def documentOf (items : List Node) : Document :=
  ⟨⟨[("Kernel", .dictionary ⟨[("Add", .sequence items)]⟩)]⟩⟩

def enabledKext (bundle : String) : Node :=
  .dictionary ⟨[(Field.bundlePath, .ofText bundle), (Field.enabled, .ofBool true)]⟩

/-- A kext, one that needs it, and a plug-in that needs that one, with a stray item among them. -/
def sensorKexts : List Node :=
  [enabledKext "Lilu.kext", .ofText "note", enabledKext "VirtualSMC.kext",
    enabledKext "VirtualSMC.kext/Contents/PlugIns/SMCProcessor.kext"]

theorem enabledName?_enabledKext {bundle : String} (filled : ComponentPath.normalize bundle ≠ "") :
    enabledName? (enabledKext bundle) = some (componentName bundle) := by
  have text : Dictionary.text? ⟨[(Field.bundlePath, .ofText bundle), (Field.enabled, .ofBool true)]⟩
      Field.bundlePath = some bundle := rfl
  have path : ExistingEntry.dictionaryPath? .kernelAdd .byBundle
      ⟨[(Field.bundlePath, .ofText bundle), (Field.enabled, .ofBool true)]⟩ =
      some (ComponentPath.normalize bundle) := by
    simp only [ExistingEntry.dictionaryPath?, text, KextIdentity.ofDictionary,
      Dictionary.textOrEmpty, Option.getD_some, if_neg filled]
    rfl
  have recognized : ExistingEntry.project? .kernelAdd 0 (enabledKext bundle) .byBundle =
      some ⟨.dictionary ⟨[(Field.bundlePath, .ofText bundle), (Field.enabled, .ofBool true)]⟩,
        ComponentPath.normalize bundle, 0⟩ := by
    simp only [ExistingEntry.project?, ExistingEntry.form?, enabledKext, path, Option.map_some]
    exact if_neg filled
  exact (enabledName?_eq_some_iff 0).mpr ⟨_, bundle, recognized, rfl, rfl, rfl⟩

theorem sensorKexts_names : sensorKexts.map enabledName? =
    [some "Lilu", none, some "VirtualSMC", some "SMCProcessor"] := by
  have lilu : ComponentPath.normalize "Lilu.kext" = "Lilu.kext" := by
    rw [ComponentPath.normalize_of_plain (by decide)]
    decide
  have sensor : ComponentPath.normalize "VirtualSMC.kext" = "VirtualSMC.kext" := by
    rw [ComponentPath.normalize_of_plain (by decide)]
    decide
  have plugIn : ComponentPath.normalize "VirtualSMC.kext/Contents/PlugIns/SMCProcessor.kext" =
      "VirtualSMC.kext/Contents/PlugIns/SMCProcessor.kext" := by
    rw [ComponentPath.normalize_of_plain (by decide)]
    decide
  simp only [sensorKexts, List.map_cons, List.map_nil]
  rw [enabledName?_enabledKext (by rw [lilu]; decide),
    enabledName?_enabledKext (by rw [sensor]; decide),
    enabledName?_enabledKext (by rw [plugIn]; decide)]
  unfold componentName
  rw [lilu, sensor, plugIn]
  decide

/-- The sensor's kexts are loaded in order. Without the first of them there is the same error in
either order of the others. -/
theorem sensorKexts_loaded_in_order :
    dependencies (documentOf sensorKexts) = [] ∧
    (["SMCProcessor", "VirtualSMC", "Lilu"] : List String).IsChain DependencyRule.LoadsAfter ∧
    LoadedAt sensorKexts "SMCProcessor" 3 ∧
    (∃ positions, List.Forall₂ (LoadedAt sensorKexts) ["VirtualSMC", "Lilu"] positions ∧
      (3 :: positions).Pairwise (· > ·)) ∧
    sensorKexts.tail.Perm sensorKexts.tail.reverse ∧
    dependencyErrors (documentOf sensorKexts.tail) =
      ["VirtualSMC requires Lilu, not present/enabled"] ∧
    dependencyErrors (documentOf sensorKexts.tail.reverse) =
      ["VirtualSMC requires Lilu, not present/enabled"] := by
  have held (items : List Node) : kexts (documentOf items) = items := rfl
  have clean : dependencies (documentOf sensorKexts) = [] := by
    rw [dependencies_eq, held, List.filterMap_eq_nil_iff]
    simp only [verdict?, requirementFinding, position?_eq_findIdx?, sensorKexts_names]
    decide
  have first : DependencyRule.LoadsAfter "SMCProcessor" "VirtualSMC" :=
    ⟨.after "SMCProcessor" ["VirtualSMC"], by decide, rfl, rfl, by decide⟩
  have second : DependencyRule.LoadsAfter "VirtualSMC" "Lilu" :=
    ⟨.after "VirtualSMC" ["Lilu"], by decide, rfl, rfl, by decide⟩
  have chain : (["SMCProcessor", "VirtualSMC", "Lilu"] : List String).IsChain
      DependencyRule.LoadsAfter :=
    .cons_cons first (.cons_cons second (.singleton _))
  have loaded : LoadedAt sensorKexts "SMCProcessor" 3 := by
    apply position?_eq_some_iff.mp
    rw [position?_eq_findIdx?, sensorKexts_names]
    decide
  have errors : dependencyErrors (documentOf sensorKexts.tail) =
      ["VirtualSMC requires Lilu, not present/enabled"] := by
    rw [dependencyErrors_eq, held]
    have told : errorText? sensorKexts.tail = fun demand => errorText? sensorKexts.tail demand :=
      rfl
    rw [told]
    simp only [errorText?, position?_eq_findIdx?, List.map_tail, sensorKexts_names]
    decide
  have perm : sensorKexts.tail.Perm sensorKexts.tail.reverse := (List.reverse_perm _).symm
  have backwards := (dependencies_exact (documentOf sensorKexts.tail)).2.1
    (documentOf sensorKexts.tail.reverse) perm
  have along := (dependencies_exact (documentOf sensorKexts)).2.2 clean "SMCProcessor"
    ["VirtualSMC", "Lilu"] 3 chain loaded
  exact ⟨clean, chain, loaded, along, perm, errors, backwards.symm.trans errors⟩

end Finding
end BootSnapshot
