import BootSnapshot.Proofs.Merge.Commit
import BootSnapshot.Proofs.Tree.Lookup

set_option autoImplicit false

namespace BootSnapshot

namespace Document

variable {document : Document}

theorem locate_key {key : String} {node : Node} (found : document.get? key = some node) :
    document.locate [.key key] = .ok node := by
  unfold get? at found
  simp only [locate, found, Node.locate, Node.locateFrom]

theorem locate_key_of_absent {key : String} (absent : document.get? key = none) :
    document.locate [.key key] = .error (.notFound [.key key]) := by
  unfold get? at absent
  simp only [locate, absent]

/-- One step further a path leads to the child of where it led, or the step fails. -/
theorem locate_snoc {path : Path} {node : Node} (found : document.locate path = .ok node)
    (step : Segment) :
    document.locate (path ++ [step]) =
      match node.child step with
      | .ok child => .ok child
      | .error error => .error (error.relocate (path ++ [step])) := by
  cases path with
  | nil => cases found
  | cons first rest =>
    cases first with
    | index position => cases found
    | key name =>
      rw [locate_key_cons] at found
      rw [List.cons_append, locate_key_cons, ← List.cons_append, Node.locate_append, found]
      dsimp only [Except.bind]
      rw [Node.locate_cons]
      cases taken : node.child step with
      | ok last => rfl
      | error error =>
        rw [Node.child_error taken]
        simp only [Except.bind, Node.fromStart_error, Node.below_refusal, Node.relocate_refusal]

theorem locate_entry {path : Path} {children : Dictionary Node}
    (found : document.locate path = .ok (.dictionary children)) {key : String} {node : Node}
    (entry : children.get? key = some node) :
    document.locate (path ++ [.key key]) = .ok node := by
  simp only [locate_snoc found, Node.child, entry]

theorem locate_entry_of_absent {path : Path} {children : Dictionary Node}
    (found : document.locate path = .ok (.dictionary children)) {key : String}
    (absent : children.get? key = none) :
    document.locate (path ++ [.key key]) = .error (.notFound (path ++ [.key key])) := by
  simp only [locate_snoc found, Node.child, absent, TreeError.relocate]

theorem locate_item {path : Path} {items : List Node}
    (found : document.locate path = .ok (.sequence items)) {index : Nat} {node : Node}
    (item : items[index]? = some node) :
    document.locate (path ++ [.index index]) = .ok node := by
  simp only [locate_snoc found, Node.child, item]

/-- The path of a list leads to what is under the list's key. -/
theorem locate_targetNode? {target : Target} {node : Node}
    (found : document.targetNode? target = some node) : document.locate target.path = .ok node := by
  obtain ⟨children, top, list⟩ := Option.bind_eq_some_iff.mp found
  obtain ⟨holder, present, dictionary⟩ := Option.bind_eq_some_iff.mp top
  obtain rfl := Node.eq_of_dictionary? dictionary
  exact locate_entry (locate_key present) list

theorem locate_items? {target : Target} {items : List Node}
    (found : document.items? target = some items) :
    document.locate target.path = .ok (.sequence items) := by
  obtain ⟨node, place, sequence⟩ := Option.bind_eq_some_iff.mp found
  obtain rfl := Node.eq_of_sequence? sequence
  exact locate_targetNode? place

theorem locate_item_of_items? {target : Target} {items : List Node} {index : Nat} {item : Node}
    (found : document.items? target = some items) (held : items[index]? = some item) :
    document.locate (target.path ++ [.index index]) = .ok item :=
  locate_item (locate_items? found) held

end Document
end BootSnapshot
