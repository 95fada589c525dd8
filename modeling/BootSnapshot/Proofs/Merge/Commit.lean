import BootSnapshot.Merge.Basic
import BootSnapshot.Proofs.Tree.Dictionary

set_option autoImplicit false

namespace BootSnapshot

theorem Target.sectionKey_injective {one other : Target}
    (same : one.sectionKey = other.sectionKey) : one = other := by
  cases one <;> cases other <;> first | rfl | exact absurd same (by decide)

theorem Target.mem_all (target : Target) : target ∈ Target.all := by
  cases target <;> decide

theorem Target.nodup_all : Target.all.Nodup := by decide

namespace Document

/-- The section that holds a list; empty if it is missing or no dictionary. -/
def sectionOf (document : Document) (target : Target) : Dictionary Node :=
  ((document.get? target.sectionKey).bind Node.dictionary?).getD .empty

/-- The section and the list are of the right kinds, as far as they are present. -/
structure Admits (document : Document) (target : Target) : Prop where
  dictionary : ∀ node, document.get? target.sectionKey = some node →
    ∃ children, node = .dictionary children
  sequence : ∀ node, document.targetNode? target = some node → ∃ items, node = .sequence items

/-- What a document holds under a section's key is all that matters for a list. -/
theorem targetNode?_congr {one other : Document} {target : Target}
    (same : one.get? target.sectionKey = other.get? target.sectionKey) :
    one.targetNode? target = other.targetNode? target := by
  unfold targetNode?
  rw [same]

theorem sectionOf_congr {one other : Document} {target : Target}
    (same : one.get? target.sectionKey = other.get? target.sectionKey) :
    one.sectionOf target = other.sectionOf target := by
  unfold sectionOf
  rw [same]

theorem Admits.congr {one other : Document} {target : Target} (admits : one.Admits target)
    (same : one.get? target.sectionKey = other.get? target.sectionKey) : other.Admits target where
  dictionary node found := admits.dictionary node (same ▸ found)
  sequence node found := admits.sequence node (targetNode?_congr same ▸ found)

theorem sectionOf_of_get? {document : Document} {target : Target} {children : Dictionary Node}
    (found : document.get? target.sectionKey = some (.dictionary children)) :
    document.sectionOf target = children := by
  simp only [sectionOf, found, Option.bind_some, Node.dictionary?, Option.getD_some]

theorem items?_of_get? {document : Document} {target : Target} {children : Dictionary Node}
    {items : List Node} (section' : document.get? target.sectionKey = some (.dictionary children))
    (list : children.get? target.listKey = some (.sequence items)) :
    document.items? target = some items := by
  simp only [items?, targetNode?, section', Option.bind_some, Node.dictionary?, list,
    Node.sequence?]

theorem get?_of_items? {document : Document} {target : Target} {items : List Node}
    (found : document.items? target = some items) : ∃ children,
      document.get? target.sectionKey = some (.dictionary children) ∧
      children.get? target.listKey = some (.sequence items) := by
  unfold items? at found
  obtain ⟨list, place, sequence⟩ := Option.bind_eq_some_iff.mp found
  obtain ⟨children, top, inside⟩ := Option.bind_eq_some_iff.mp place
  obtain ⟨node, present, dictionary⟩ := Option.bind_eq_some_iff.mp top
  obtain rfl := Node.eq_of_dictionary? dictionary
  obtain rfl := Node.eq_of_sequence? sequence
  exact ⟨children, present, inside⟩

theorem admits_of_items? {document : Document} {target : Target} {items : List Node}
    (found : document.items? target = some items) : document.Admits target := by
  obtain ⟨children, top, list⟩ := get?_of_items? found
  refine ⟨fun node present => ?_, fun node present => ?_⟩
  · exact ⟨children, Option.some_inj.mp (present.symm.trans top)⟩
  · simp only [targetNode?, top, Option.bind_some, Node.dictionary?, list] at present
    exact ⟨items, (Option.some_inj.mp present).symm⟩

end Document

namespace Merge

open Document

theorem existingItems_of_admits {document : Document} {target : Target}
    (admits : document.Admits target) :
    existingItems document target = .ok ((document.items? target).getD []) := by
  unfold existingItems
  cases top : document.get? target.sectionKey with
  | none => simp only [items?, targetNode?, top, Option.bind_none, Option.getD_none]
  | some node =>
    obtain ⟨children, rfl⟩ := admits.dictionary node top
    cases list : children.get? target.listKey with
    | none =>
      simp only [items?, targetNode?, top, Option.bind_some, Node.dictionary?, list,
        Option.bind_none, Option.getD_none]
    | some node =>
      have place : document.targetNode? target = some node := by
        simp only [targetNode?, top, Option.bind_some, Node.dictionary?, list]
      obtain ⟨items, rfl⟩ := admits.sequence node place
      simp only [items?_of_get? top list, list, Option.getD_some]

theorem admits_of_existingItems {document : Document} {target : Target} {items : List Node}
    (read : existingItems document target = .ok items) : document.Admits target := by
  unfold existingItems at read
  split at read
  · rename_i absent
    refine ⟨fun node found => ?_, fun node found => ?_⟩
    · rw [absent] at found
      cases found
    · simp only [targetNode?, absent, Option.bind_none] at found
      cases found
  · rename_i children top
    refine ⟨fun node found => ⟨children, Option.some_inj.mp (found.symm.trans top)⟩,
      fun node found => ?_⟩
    simp only [targetNode?, top, Option.bind_some, Node.dictionary?] at found
    rw [found] at read
    split at read
    · rename_i absent
      cases absent
    · rename_i items same
      exact ⟨items, Option.some_inj.mp same⟩
    · cases read
  · cases read

theorem existingItems_error {document : Document} {target : Target}
    (refuses : ¬ document.Admits target) : ∃ error, existingItems document target = .error error := by
  cases read : existingItems document target with
  | error error => exact ⟨error, rfl⟩
  | ok items => exact absurd (admits_of_existingItems read) refuses

theorem category_of_mem {discovered : List Component} {category : Category} {component : Component}
    (member : component ∈ ofCategory discovered category) : component.category = category :=
  of_decide_eq_true (List.mem_filter.mp member).2

/-- A list of the document reconciled with the components of its category. -/
def outcomeOf (document : Document) (discovered : List Component) (mode : Mode) (target : Target) :
    Outcome :=
  reconcile target ((document.items? target).getD []) (ofCategory discovered target.category) mode

/-- Staging succeeds for documents whose containers are of the right kinds. -/
theorem stage_of_admits {document : Document} (discovered : List Component) (mode : Mode)
    {targets : List Target} (admits : ∀ target ∈ targets, document.Admits target) :
    stage document discovered mode targets =
      .ok (targets.map fun target => (target, outcomeOf document discovered mode target)) := by
  induction targets with
  | nil => rfl
  | cons target rest ih =>
    have later := ih fun other member => admits other (List.mem_cons_of_mem target member)
    simp only [stage, existingItems_of_admits (admits target List.mem_cons_self), later]
    rfl

theorem stage_of_refuses {document : Document} (discovered : List Component) (mode : Mode)
    {targets : List Target} (refuses : ∃ target ∈ targets, ¬ document.Admits target) :
    ∃ error, stage document discovered mode targets = .error error := by
  induction targets with
  | nil =>
    obtain ⟨target, member, -⟩ := refuses
    cases member
  | cons target rest ih =>
    by_cases admits : document.Admits target
    · have later : ∃ other ∈ rest, ¬ document.Admits other := by
        obtain ⟨other, member, refused⟩ := refuses
        rcases List.mem_cons.mp member with rfl | member
        · exact absurd admits refused
        · exact ⟨other, member, refused⟩
      obtain ⟨error, failed⟩ := ih later
      refine ⟨error, ?_⟩
      simp only [stage, existingItems_of_admits admits, failed]
      rfl
    · obtain ⟨error, failed⟩ := existingItems_error admits
      exact ⟨error, by simp only [stage, failed]⟩

theorem commit_of_admits {document : Document} {target : Target}
    (admits : document.Admits target) (items : List Node) :
    commit document target items = ⟨document.root.insert target.sectionKey
      (.dictionary ((document.sectionOf target).insert target.listKey (.sequence items)))⟩ := by
  unfold commit
  cases top : document.root.get? target.sectionKey with
  | none =>
    have absent : document.get? target.sectionKey = none := top
    simp only [sectionOf, absent, Option.bind_none, Option.getD_none]
  | some node =>
    obtain ⟨children, rfl⟩ := admits.dictionary node top
    simp only [sectionOf_of_get? top]

/-- Writing the items that a list holds already changes nothing. -/
theorem commit_of_items? {document : Document} {target : Target} {items : List Node}
    (found : document.items? target = some items) : commit document target items = document := by
  obtain ⟨children, top, list⟩ := get?_of_items? found
  rw [commit_of_admits (admits_of_items? found), sectionOf_of_get? top,
    Dictionary.insert_get? list, Dictionary.insert_get? top]

/-- What writing staged lists makes of a document. -/
structure Committed (document after : Document) (staged : List (Target × Outcome)) : Prop where
  lists : ∀ target outcome, (target, outcome) ∈ staged →
    after.get? target.sectionKey = some (.dictionary
      ((document.sectionOf target).insert target.listKey (.sequence outcome.items)))
  others : ∀ key, (∀ entry ∈ staged, entry.1.sectionKey ≠ key) → after.get? key = document.get? key
  keys : after.root.keys = document.root.keys ++
    ((staged.map Prod.fst).filter fun target => !document.root.contains target.sectionKey).map
      Target.sectionKey
  places : Dictionary.KeptBut (fun key => ∃ entry ∈ staged, entry.1.sectionKey = key)
    document.root after.root

theorem get?_commit_ne {document : Document} {target : Target} (admits : document.Admits target)
    (items : List Node) {key : String} (apart : key ≠ target.sectionKey) :
    (commit document target items).get? key = document.get? key := by
  rw [commit_of_admits admits]
  exact Dictionary.get?_insert_ne _ _ apart

/-- Writing staged lists one after another. The lists still to be written find their sections as
they were in the document, since the ones before them have other sections. -/
theorem committed_commitAll {document : Document} {staged : List (Target × Outcome)}
    (admits : ∀ entry ∈ staged, document.Admits entry.1)
    (distinct : (staged.map Prod.fst).Nodup) :
    Committed document (commitAll document staged) staged := by
  induction staged generalizing document with
  | nil =>
    refine ⟨fun _ _ member => absurd member List.not_mem_nil, fun _ _ => rfl, ?_,
      Dictionary.KeptBut.refl _ _⟩
    exact (List.append_nil _).symm
  | cons entry rest ih =>
    obtain ⟨target, outcome⟩ := entry
    have first : document.Admits target := admits (target, outcome) List.mem_cons_self
    obtain ⟨fresh, distinctRest⟩ := List.nodup_cons.mp distinct
    let next := commit document target outcome.items
    have written : next = ⟨document.root.insert target.sectionKey (.dictionary
        ((document.sectionOf target).insert target.listKey (.sequence outcome.items)))⟩ :=
      commit_of_admits first outcome.items
    have apart : ∀ other ∈ rest, other.1.sectionKey ≠ target.sectionKey := by
      intro other member same
      exact fresh (List.mem_map.mpr ⟨other, member, Target.sectionKey_injective same⟩)
    have untouched : ∀ other ∈ rest,
        next.get? other.1.sectionKey = document.get? other.1.sectionKey :=
      fun other member => get?_commit_ne first _ (apart other member)
    have later : Committed next (commitAll next rest) rest := ih
      (fun other member => (admits other (List.mem_cons_of_mem _ member)).congr
        (untouched other member).symm) distinctRest
    change Committed document (commitAll next rest) ((target, outcome) :: rest)
    refine ⟨?_, ?_, ?_, ?_⟩
    · intro other result member
      rcases List.mem_cons.mp member with same | member
      · obtain ⟨rfl, rfl⟩ := Prod.mk.inj same
        rw [later.others other.sectionKey apart, written]
        exact Dictionary.get?_insert_self _ _ _
      · rw [later.lists other result member, sectionOf_congr (untouched (other, result) member)]
    · intro key absent
      rw [later.others key fun other member => absent other (List.mem_cons_of_mem _ member)]
      exact get?_commit_ne first _ (Ne.symm (absent (target, outcome) List.mem_cons_self))
    · have same : ∀ other ∈ rest.map Prod.fst,
          (!next.root.contains other.sectionKey) = !document.root.contains other.sectionKey := by
        intro other member
        obtain ⟨entry, inside, rfl⟩ := List.mem_map.mp member
        exact congrArg (fun found : Option Node => !found.isSome) (untouched entry inside)
      have step : next.root.keys = document.root.keys ++
          if document.root.contains target.sectionKey then [] else [target.sectionKey] := by
        rw [written]
        exact Dictionary.keys_insert _ _ _
      rw [later.keys, List.filter_congr same, step, List.append_assoc]
      cases present : document.root.contains target.sectionKey with
      | true => simp only [↓reduceIte, List.nil_append, List.map_cons, List.filter_cons, present,
          Bool.not_true, Bool.false_eq_true]
      | false => simp only [Bool.false_eq_true, ↓reduceIte, List.map_cons, List.filter_cons,
          present, Bool.not_false, List.singleton_append]
    · intro index key value stays found
      have outside : ¬ ∃ entry ∈ rest, entry.1.sectionKey = key := fun ⟨entry, member, same⟩ =>
        stays ⟨entry, List.mem_cons_of_mem _ member, same⟩
      refine later.places index key value outside ?_
      rw [written]
      have own : ¬ target.sectionKey = key := fun same =>
        stays ⟨(target, outcome), List.mem_cons_self, same⟩
      exact (Dictionary.KeptBut.refl (target.sectionKey = ·) document.root).insert rfl _
        index key value own found

end Merge
end BootSnapshot
