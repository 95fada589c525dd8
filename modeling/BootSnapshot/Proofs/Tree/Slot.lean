import BootSnapshot.Document
import BootSnapshot.Proofs.Tree.Step

set_option autoImplicit false

namespace BootSnapshot

/-- A place that can be written to: what is there, and what the whole becomes of a write. -/
structure Slot (σ : Type) where
  held : Node
  written : Node → σ

namespace Node

/-- The place of a child. Steps of the wrong kind are refused before any child is looked for. -/
def childSlot (node : Node) (step : Segment) : Except TreeError (Slot Node) :=
  if ! node.accepts step then .error (node.mismatch step)
  else
    match node, step with
    | .dictionary children, .key name =>
      match children.get? name with
      | some held => .ok ⟨held, fun new => .dictionary (children.insert name new)⟩
      | none => .error (.notFound [step])
    | .sequence items, .index position =>
      match items[position]? with
      | some held => .ok ⟨held, fun new => .sequence (items.set position new)⟩
      | none => .error (.notFound [step])
    | _, _ => .error (.notFound [step])

/-- Goes on along a path from a place to which `walked` has led. -/
def slotFrom (walked : Path) (slot : Slot Node) : Path → Except TreeError (Slot Node)
  | [] => .ok slot
  | step :: rest =>
    match slot.held.childSlot step with
    | .ok inner =>
      slotFrom (walked ++ [step]) ⟨inner.held, fun new => slot.written (inner.written new)⟩ rest
    | .error error => .error (error.relocate (walked ++ [step]))

def slotAt (node : Node) (path : Path) : Except TreeError (Slot Node) :=
  slotFrom [] ⟨node, fun new => new⟩ path

/-- The place of a child is found where the child is, and fails as the step to the child does. -/
theorem childSlot_cases (node : Node) (step : Segment) :
    (∃ slot, node.childSlot step = .ok slot ∧ node.child step = .ok slot.held ∧
      ∀ new, node.replaceChild step new = .ok (slot.written new)) ∨
    ∃ error, node.childSlot step = .error error ∧ node.child step = .error error := by
  cases node with
  | dictionary children =>
    cases step with
    | index position => exact Or.inr ⟨_, rfl, rfl⟩
    | key name =>
      cases held : children.get? name with
      | none => exact Or.inr ⟨.notFound [.key name], by simp [childSlot, accepts, held],
          by simp [child, held]⟩
      | some next =>
        have present : children.contains name = true := Option.isSome_of_eq_some held
        exact Or.inl ⟨⟨next, fun new => .dictionary (children.insert name new)⟩,
          by simp [childSlot, accepts, held], by simp [child, held], fun new => if_pos present⟩
  | sequence items =>
    cases step with
    | key name => exact Or.inr ⟨_, rfl, rfl⟩
    | index position =>
      cases held : items[position]? with
      | none => exact Or.inr ⟨.notFound [.index position], by simp [childSlot, accepts, held],
          by simp [child, held]⟩
      | some next =>
        have inside := (List.getElem?_eq_some_iff.mp held).1
        exact Or.inl ⟨⟨next, fun new => .sequence (items.set position new)⟩,
          by simp [childSlot, accepts, held], by simp [child, held], fun new => if_pos inside⟩
  | scalar content => cases step <;> exact Or.inr ⟨_, rfl, rfl⟩

theorem held_slotFrom (walked : Path) (slot : Slot Node) (path : Path) :
    (slotFrom walked slot path).map Slot.held = locateFrom walked slot.held path := by
  induction path generalizing walked slot with
  | nil => rfl
  | cons step rest ih =>
    rw [slotFrom, locateFrom]
    rcases slot.held.childSlot_cases step with ⟨inner, taken, found, -⟩ | ⟨error, failed, failed'⟩
    · rw [taken, found]
      exact ih (walked ++ [step]) ⟨inner.held, fun new => slot.written (inner.written new)⟩
    · rw [failed, failed']
      rfl

/-- A write goes through all places on the way, the innermost first. -/
theorem written_slotFrom (walked : Path) (slot : Slot Node) (path : Path) (new : Node) :
    (slotFrom walked slot path).map (·.written new) =
      (replaceFrom walked slot.held new path).map slot.written := by
  induction path generalizing walked slot with
  | nil => rfl
  | cons step rest ih =>
    rw [slotFrom, replaceFrom]
    rcases slot.held.childSlot_cases step with ⟨inner, taken, found, put⟩ | ⟨error, failed, failed'⟩
    · rw [taken, found]
      refine (ih (walked ++ [step]) ⟨inner.held, fun new => slot.written (inner.written new)⟩).trans
        ?_
      dsimp only
      cases replaceFrom (walked ++ [step]) inner.held new rest with
      | error error => rfl
      | ok changed =>
        dsimp only
        rw [put changed]
        rfl
    · rw [failed, failed']
      rfl

theorem held_slotAt (node : Node) (path : Path) :
    (node.slotAt path).map Slot.held = node.locate path :=
  held_slotFrom [] ⟨node, fun new => new⟩ path

theorem written_slotAt (node : Node) (path : Path) (new : Node) :
    (node.slotAt path).map (·.written new) = node.replace path new := by
  refine (written_slotFrom [] ⟨node, fun new => new⟩ path new).trans ?_
  unfold replace
  cases replaceFrom [] node new path <;> rfl

end Node

namespace Document

def slotAt (document : Document) (path : Path) : Except TreeError (Slot Document) :=
  match path with
  | [] => .error (.notFound [])
  | .index _ :: _ => .error (.typeMismatch path .array .dictionary)
  | .key name :: rest =>
    match document.root.get? name with
    | none => .error (.notFound [.key name])
    | some child =>
      match child.slotAt rest with
      | .ok slot => .ok ⟨slot.held, fun new => ⟨document.root.insert name (slot.written new)⟩⟩
      | .error error => .error (error.below [.key name])

theorem held_slotAt (document : Document) (path : Path) :
    (document.slotAt path).map Slot.held = document.locate path := by
  cases path with
  | nil => rfl
  | cons step rest =>
    cases step with
    | index position => rfl
    | key name =>
      simp only [slotAt, locate]
      cases document.root.get? name with
      | none => rfl
      | some child =>
        dsimp only
        rw [← child.held_slotAt rest]
        cases child.slotAt rest <;> rfl

theorem written_slotAt (document : Document) (path : Path) (new : Node) :
    (document.slotAt path).map (·.written new) = document.replace path new := by
  cases path with
  | nil => rfl
  | cons step rest =>
    cases step with
    | index position => rfl
    | key name =>
      simp only [slotAt, replace]
      cases document.root.get? name with
      | none => rfl
      | some child =>
        dsimp only
        rw [← child.written_slotAt rest new]
        cases child.slotAt rest <;> rfl

end Document
end BootSnapshot
