import BootSnapshot.Finding.Report
import BootSnapshot.Proofs.Finding.Dependency
import BootSnapshot.Proofs.Finding.Group
import BootSnapshot.Proofs.Finding.PathLength
import BootSnapshot.Proofs.Finding.Structure
import BootSnapshot.Proofs.Tree.Locate

set_option autoImplicit false

namespace BootSnapshot

open Document Merge

/-- A text that an item of a list holds as a path, with the place of the text. -/
inductive HoldsPath (document : Document) : Path → String → Prop where
  /-- The item itself is the path of a driver. -/
  | bare {items : List Node} {index : Nat} {text : String} :
    document.items? .uefiDrivers = some items → items[index]? = some (.ofText text) →
      HoldsPath document (Target.uefiDrivers.path ++ [.index index]) text
  /-- The path is in a field of the item. -/
  | field {target : Target} {items : List Node} {index : Nat} {fields : Dictionary Node}
      {key text : String} :
    document.items? target = some items → items[index]? = some (.dictionary fields) →
      fields.text? key = some text →
      HoldsPath document (target.path ++ [.index index] ++ [.key key]) text

namespace Finding

/-- A path leads to the item at a position of the list of kexts, which is enabled and has the given
name. -/
def LeadsToKext (document : Document) (path : Path) (index : Nat) (name : String) : Prop :=
  ∃ items fields bundle, document.items? .kernelAdd = some items ∧
    items[index]? = some (.dictionary fields) ∧ document.locate path = .ok (.dictionary fields) ∧
    fields.bool? Field.enabled = some true ∧ fields.text? Field.bundlePath = some bundle ∧
    componentName bundle = name

/-- What there is at the place of a finding, and how its message names it. -/
def PointsInto (document : Document) (finding : Finding) : Prop :=
  match finding with
  | .sectionMissing key =>
    finding.message = "missing required section " ++ key ∧ finding.path = [.key key] ∧
      document.locate finding.path = .error (.notFound finding.path) ∧
      finding.path.parent? = some Path.root
  | .subsectionMissing key subsection =>
    finding.message = "missing recommended subsection " ++ key ++ "." ++ subsection ∧
      finding.path = [.key key, .key subsection] ∧
      document.locate finding.path = .error (.notFound finding.path) ∧
      ∃ parent children, finding.path.parent? = some parent ∧
        document.locate parent = .ok (.dictionary children)
  | .sectionNotDictionary key found =>
    ∃ node, document.locate finding.path = .ok node ∧ node.kind = found ∧
      finding.message = key ++ " must be a dictionary, found " ++ node.kind.name
  | .listNotArray target found =>
    ∃ node, document.locate finding.path = .ok node ∧ node.kind = found ∧
      finding.message = target.display ++ " must be an array, found " ++ node.kind.name
  | .pathTooLong _ value =>
    ∃ text, document.locate finding.path = .ok (.ofText text) ∧
      HoldsPath document finding.path text ∧
      (value = text ∨ ∃ bundle, value = bundle ++ "/" ++ text) ∧
      finding.message = Text.quoted value ++ " is " ++ Decimal.natText value.length ++
        " characters long (maximum " ++ Decimal.natText 128 ++ ")"
  | .duplicate target key indices =>
    ∃ items first item, document.items? target = some items ∧
      (∀ index, index ∈ indices ↔ (items[index]?).bind (duplicateKey? target) = some key) ∧
      first ∈ indices ∧ (∀ index ∈ indices, first ≤ index) ∧
      items[first]? = some item ∧ document.locate finding.path = .ok item ∧
      finding.message = key ++ " appears " ++ Decimal.natText indices.length ++ " times in " ++
        target.display ++ " (indices " ++ ", ".intercalate (indices.map Decimal.natText) ++ ")"
  | .requirementMissing index subject required =>
    LeadsToKext document finding.path index subject ∧
      finding.message = subject ++ " requires " ++ required ++ ", not present/enabled"
  | .requirementLate index subject required =>
    LeadsToKext document finding.path index subject ∧
      finding.message = subject ++ " should load after " ++ required

/-- Two findings of one check are about different places. -/
def Apart (one other : Finding) : Prop := one.check = other.check → one.path ≠ other.path

/-- Sections and subsections are looked for once each, and a list is not both missing and of the
wrong kind. -/
theorem apart_structural (document : Document) : (structural document).Pairwise Apart := by
  have distinctKeys : requiredKeys.Nodup := by decide
  have distinctSubsections : ∀ key ∈ requiredKeys, (recommendedKeys key).Nodup := by decide
  refine List.pairwise_append.mpr ⟨?_, ?_, ?_⟩
  · refine List.pairwise_flatMap.mpr ⟨fun key required => ?_, distinctKeys.imp ?_⟩
    · unfold sectionFindings
      split
      · exact List.pairwise_singleton _ _
      · refine List.pairwise_map.mpr (((distinctSubsections key required).filter _).imp ?_)
        intro one other differ _ same
        simp only [path, List.cons.injEq, Segment.key.injEq, and_true, true_and] at same
        exact differ same
      · exact List.pairwise_singleton _ _
    · intro key key' differ one first other second _ same
      have keys := key_of_mem_sectionFindings first
      rw [same, key_of_mem_sectionFindings second, Option.some_inj, Segment.key.injEq] at keys
      exact differ keys.symm
  · refine List.pairwise_flatMap.mpr ⟨fun target _ => ?_, Target.nodup_all.imp ?_⟩
    · unfold listFindings
      split
      · exact List.Pairwise.nil
      · exact List.Pairwise.nil
      · exact List.pairwise_singleton _ _
    · intro target target' differ one first other second _ same
      obtain ⟨node, -, -, rfl⟩ := mem_listFindings.mp first
      obtain ⟨node', -, -, rfl⟩ := mem_listFindings.mp second
      simp only [path, Target.path, List.cons.injEq, Segment.key.injEq] at same
      exact differ (Target.sectionKey_injective same.1)
  · intro one first other second _ same
    obtain ⟨key, -, first⟩ := List.mem_flatMap.mp first
    obtain ⟨target, -, second⟩ := List.mem_flatMap.mp second
    obtain ⟨node, place, -, rfl⟩ := mem_listFindings.mp second
    rcases mem_sectionFindings.mp first with
      ⟨-, rfl⟩ | ⟨children, subsection, top, -, missing, rfl⟩ | ⟨holder, -, -, rfl⟩
    · simp only [path, Target.path, List.cons.injEq, reduceCtorEq, and_false] at same
    · simp only [path, Target.path, List.cons.injEq, Segment.key.injEq, and_true] at same
      obtain ⟨rfl, rfl⟩ := same
      simp only [targetNode?, top, Option.bind_some, Node.dictionary?] at place
      simp only [Dictionary.contains, place, Option.isSome_some, Bool.true_eq_false] at missing
    · simp only [path, Target.path, List.cons.injEq, reduceCtorEq, and_false] at same

theorem apart_longPaths (document : Document) : (longPaths document).Pairwise Apart :=
  (pairwise_longPaths document).imp fun before _ same => before.ne same

end Finding

theorem Dictionary.get?_of_text? {fields : Dictionary Node} {key text : String}
    (found : fields.text? key = some text) : fields.get? key = some (.ofText text) := by
  obtain ⟨node, held, content⟩ := Option.bind_eq_some_iff.mp found
  rw [held]
  cases node with
  | scalar scalar =>
    cases scalar with
    | string same =>
      exact congrArg (fun text => some (Node.ofText text)) (Option.some_inj.mp content)
    | _ => cases content
  | _ => cases content

theorem HoldsPath.locate {document : Document} {path : Path} {text : String}
    (holds : HoldsPath document path text) : document.locate path = .ok (.ofText text) := by
  cases holds with
  | bare list held => exact locate_item_of_items? list held
  | field list held found =>
    exact locate_entry (locate_item_of_items? list held) (Dictionary.get?_of_text? found)

namespace Finding

theorem pointsInto_pathTooLong {document : Document} {target : Target} {index : Nat} {item : Node}
    {way : Path} {value : String} (found : itemAt? document target index = some item)
    (bears : Bears target item way value) :
    PointsInto document (.pathTooLong (target.path ++ .index index :: way) value) := by
  obtain ⟨items, list, held⟩ := Option.bind_eq_some_iff.mp found
  cases bears with
  | bare =>
    have holds : HoldsPath document _ value := .bare list held
    exact ⟨value, holds.locate, holds, Or.inl rfl, rfl⟩
  | path _ filled | bundle filled =>
    have holds : HoldsPath document _ value := .field list held filled
    exact ⟨value, holds.locate, holds, Or.inl rfl, rfl⟩
  | @inside fields bundle inner field _ _ filled =>
    have holds : HoldsPath document _ inner := .field list held filled
    exact ⟨inner, holds.locate, holds, Or.inr ⟨bundle, rfl⟩, rfl⟩

theorem apart_duplicates (document : Document) : (duplicates document).Pairwise Apart :=
  (pairwise_duplicates document).imp fun before _ same => before.ne same

theorem pointsInto_duplicate {document : Document} {target : Target} {items : List Node}
    {key : String} (list : document.items? target = some items)
    (several : 2 ≤ (positionsWith target items key).length) :
    PointsInto document (.duplicate target key (positionsWith target items key)) := by
  have ascending := pairwise_positionsWith target items key
  have members (index : Nat) : index ∈ positionsWith target items key ↔
      (items[index]?).bind (duplicateKey? target) = some key := mem_positionsWith
  cases positions : positionsWith target items key with
  | nil =>
    rw [positions] at several
    cases several
  | cons first rest =>
    rw [positions] at ascending members
    obtain ⟨item, held, -⟩ := Option.bind_eq_some_iff.mp ((members first).mp List.mem_cons_self)
    have least : ∀ index ∈ first :: rest, first ≤ index := by
      intro index inside
      rcases List.mem_cons.mp inside with rfl | later
      · exact Nat.le_refl _
      · exact Nat.le_of_lt ((List.pairwise_cons.mp ascending).1 index later)
    exact ⟨items, first, item, list, members, List.mem_cons_self, least, held,
      locate_item_of_items? list held, rfl⟩

theorem exists_fields_of_project? {index : Nat} {item : Node} {identity : KextIdentity}
    {entry : ExistingEntry}
    (known : ExistingEntry.project? .kernelAdd index item identity = some entry) :
    ∃ fields, item = .dictionary fields ∧ entry.form = .dictionary fields := by
  unfold ExistingEntry.project? at known
  split at known
  · rename_i form path formed
    split at known
    · cases known
    · obtain rfl := Option.some_inj.mp known
      cases item with
      | dictionary fields =>
        obtain ⟨_, -, same⟩ := Option.map_eq_some_iff.mp formed
        exact ⟨fields, rfl, (Prod.mk.inj same).1.symm⟩
      | sequence items => cases formed
      | scalar content => cases content <;> cases formed
  · cases known

/-- An enabled kext is a dictionary that says so and names its bundle. -/
theorem leadsToKext_of_enabledAt {document : Document} {name : String} {index : Nat}
    (enabled : EnabledAt (kexts document) name index) :
    LeadsToKext document (Target.kernelAdd.path ++ [.index index]) index name := by
  obtain ⟨item, entry, bundle, held, known, on, found, named⟩ := enabled
  obtain ⟨fields, rfl, form⟩ := exists_fields_of_project? known
  have switched : fields.bool? Field.enabled = some true := by
    unfold ExistingEntry.isEnabled at on
    rw [form] at on
    dsimp only at on
    cases value : fields.bool? Field.enabled with
    | none =>
      rw [value] at on
      cases on
    | some value =>
      rw [value, Option.getD_some] at on
      rw [on]
  unfold ExistingEntry.dictionary? at found
  rw [form] at found
  unfold kexts at held
  cases list : document.items? .kernelAdd with
  | none =>
    rw [list] at held
    cases held
  | some items =>
    rw [list] at held
    exact ⟨items, fields, bundle, list, held, locate_item_of_items? list held, switched, found,
      named⟩

theorem exists_loadedAt_of_verdict? {items : List Node} {demand : Demand} {finding : Finding}
    (told : verdict? items demand = some finding) :
    ∃ index, LoadedAt items demand.1.subject index ∧
      finding.path = Target.kernelAdd.path ++ [.index index] := by
  have verdict := verdict_verdict? items demand
  rw [told] at verdict
  cases verdict with
  | missing loaded _ tells => exact ⟨_, loaded, tells.path⟩
  | late loaded _ _ _ tells => exact ⟨_, loaded, tells.path⟩

/-- Rules have different subjects, which need one kext each, so that findings of different demands
are about different kexts. -/
theorem apart_dependencies (document : Document) : (dependencies document).Pairwise Apart := by
  have subjects : DependencyRule.demands.Pairwise fun one other =>
      one.1.subject ≠ other.1.subject := by decide
  rw [dependencies_eq]
  refine List.pairwise_filterMap.mpr (subjects.imp ?_)
  intro one other differ first told second told' _ same
  obtain ⟨index, loaded, place⟩ := exists_loadedAt_of_verdict? told
  obtain ⟨index', loaded', place'⟩ := exists_loadedAt_of_verdict? told'
  rw [place, place', List.append_cancel_left_eq, List.cons.injEq, Segment.index.injEq] at same
  obtain ⟨rfl, -⟩ := same
  exact differ (loaded.1.name_eq loaded'.1)

end Finding
end BootSnapshot
