import BootSnapshot.Proofs.Tree.Replace
import BootSnapshot.Proofs.Tree.Slot

set_option autoImplicit false

namespace BootSnapshot

/-- Errors that differ at most in the path that they name. -/
def TreeError.SameKind (error other : TreeError) : Prop := error.relocate [] = other.relocate []

/-- An error names the shortest part of a path that leads nowhere. The node before its last step
takes such steps and has no such child, or it is of another kind than takes them. -/
def Node.Blames (node : Node) (path : Path) (error : TreeError) : Prop :=
  ∃ front step parent, front ++ [step] <+: path ∧
    (∀ shorter, shorter <+: front → ∃ found, node.locate shorter = .ok found) ∧
    (¬ ∃ found, node.locate (front ++ [step]) = .ok found) ∧
    node.locate front = .ok parent ∧
    ((parent.kind = step.container ∧ error = .notFound (front ++ [step])) ∨
      (parent.kind ≠ step.container ∧
        error = .typeMismatch (front ++ [step]) step.container parent.kind))

/-- A place that is read and written alike. What is found to write to is what is read, and it is there
that a path is replaced. Writing fails where reading does and with the same error, what is written is
read afterwards, and writing what is read changes nothing. -/
structure SamePlace {σ : Type} (locate : σ → Path → Except TreeError Node)
    (slotAt : σ → Path → Except TreeError (Slot σ))
    (replace : σ → Path → Node → Except TreeError σ) (subject : σ) (path : Path) : Prop where
  held : (slotAt subject path).map Slot.held = locate subject path
  write : ∀ new, (slotAt subject path).map (·.written new) = replace subject path new
  error_iff : ∀ new error,
    replace subject path new = .error error ↔ locate subject path = .error error
  written : ∀ new changed, replace subject path new = .ok changed → locate changed path = .ok new
  restored : ∀ old, locate subject path = .ok old → replace subject path old = .ok subject

namespace Node

/-- A walk that fails has come to a node whose step fails. -/
theorem exists_step_of_locate_error {node : Node} {path : Path} {error : TreeError}
    (failed : node.locate path = .error error) :
    ∃ front step back parent, path = front ++ step :: back ∧ node.locate front = .ok parent ∧
      (¬ ∃ next, parent.child step = .ok next) ∧
      error = parent.refusal step (front ++ [step]) := by
  induction path generalizing node error with
  | nil => cases failed
  | cons step rest ih =>
    rw [locate_cons] at failed
    cases taken : node.child step with
    | error inner =>
      rw [taken] at failed
      obtain rfl : inner = error := Except.error.inj failed
      refine ⟨[], step, rest, node, rfl, rfl, ?_, child_error taken⟩
      rintro ⟨next, found⟩
      rw [taken] at found
      cases found
    | ok next =>
      rw [taken] at failed
      simp only [Except.bind] at failed
      cases located : next.locate rest with
      | ok found =>
        rw [located] at failed
        cases failed
      | error inner =>
        rw [located] at failed
        obtain ⟨front, last, back, parent, rfl, found, stuck, rfl⟩ := ih located
        refine ⟨step :: front, last, back, parent, rfl, ?_, stuck, ?_⟩
        · exact locate_cons_eq_ok_iff.mpr ⟨next, taken, found⟩
        · exact (Except.error.inj failed).symm.trans (below_refusal parent last [step] _)

theorem blames_of_locate_error {node : Node} {path : Path} {error : TreeError}
    (failed : node.locate path = .error error) : node.Blames path error := by
  obtain ⟨front, step, back, parent, rfl, located, stuck, rfl⟩ := exists_step_of_locate_error failed
  refine ⟨front, step, parent, ⟨back, ?_⟩, ?_, ?_, located, ?_⟩
  · rw [List.append_assoc, List.singleton_append]
  · rintro shorter ⟨others, rfl⟩
    obtain ⟨next, found, -⟩ := locate_append_eq_ok_iff.mp located
    exact ⟨next, found⟩
  · rintro ⟨last, found⟩
    obtain ⟨next, found', stepped⟩ := locate_append_eq_ok_iff.mp found
    obtain rfl : parent = next := Except.ok.inj (located.symm.trans found')
    obtain ⟨child, taken, -⟩ := locate_cons_eq_ok_iff.mp stepped
    exact stuck ⟨child, taken⟩
  · unfold refusal
    split
    · rename_i takes
      exact Or.inl ⟨takes, rfl⟩
    · rename_i other
      exact Or.inr ⟨other, rfl⟩

theorem samePlace (node : Node) (path : Path) :
    SamePlace Node.locate Node.slotAt Node.replace node path where
  held := node.held_slotAt path
  write := node.written_slotAt path
  error_iff new _ := replace_eq_error_iff new
  written _ _ replaced := locate_replace_self replaced
  restored _ found := replace_locate found

end Node

namespace Document

theorem toNode_injective {document other : Document} (same : document.toNode = other.toNode) :
    document = other :=
  congrArg Document.mk (Node.dictionary.inj same)

theorem locate_key_cons (document : Document) (name : String) (rest : Path) :
    document.locate (.key name :: rest) = document.toNode.locate (.key name :: rest) := by
  rw [Node.locate_cons]
  simp only [locate, toNode, Node.child]
  cases document.root.get? name with
  | none => rfl
  | some child =>
    dsimp only [Except.bind]
    cases child.locate rest <;> rfl

theorem locate_toNode_index (document : Document) (position : Nat) (rest : Path) :
    document.toNode.locate (.index position :: rest) =
      .error (.typeMismatch [.index position] .array .dictionary) := rfl

/-- A document is written to as its tree is. -/
theorem replace_key_cons (document : Document) (name : String) (rest : Path) (new : Node) :
    (document.replace (.key name :: rest) new).map toNode =
      document.toNode.replace (.key name :: rest) new := by
  rw [Node.replace_cons]
  simp only [replace, toNode, Node.child]
  cases held : document.root.get? name with
  | none => rfl
  | some child =>
    have present : document.root.contains name = true := Option.isSome_of_eq_some held
    dsimp only [Except.bind]
    cases child.replace rest new with
    | error error => rfl
    | ok inner =>
      have written : (Node.dictionary document.root).replaceChild (.key name) inner =
          .ok (.dictionary (document.root.insert name inner)) := if_pos present
      exact written.symm

theorem samePlace (document : Document) (path : Path) :
    SamePlace Document.locate Document.slotAt Document.replace document path := by
  have held := document.held_slotAt path
  have write := document.written_slotAt path
  cases path with
  | nil =>
    refine ⟨held, write, fun _ _ => ?_, fun _ _ replaced => ?_, fun _ found => ?_⟩
    · simp only [replace, locate, Except.error.injEq]
    · cases replaced
    · cases found
  | cons step rest =>
    cases step with
    | index position =>
      refine ⟨held, write, fun _ _ => ?_, fun _ _ replaced => ?_, fun _ found => ?_⟩
      · simp only [replace, locate, Except.error.injEq]
      · cases replaced
      · cases found
    | key name =>
      obtain ⟨-, -, error_iff, written, restored⟩ := document.toNode.samePlace (.key name :: rest)
      refine ⟨held, write, ?_, ?_, ?_⟩
      · intro new error
        rw [locate_key_cons, ← error_iff new, ← replace_key_cons]
        cases document.replace (.key name :: rest) new <;>
          simp only [Except.map, Except.error.injEq, reduceCtorEq]
      · intro new changed replaced
        rw [locate_key_cons]
        apply written new
        rw [← replace_key_cons, replaced]
        rfl
      · intro old found
        rw [locate_key_cons] at found
        have whole := restored old found
        rw [← replace_key_cons] at whole
        cases replaced : document.replace (.key name :: rest) old with
        | error error =>
          rw [replaced] at whole
          cases whole
        | ok changed =>
          rw [replaced] at whole
          rw [toNode_injective (Except.ok.inj whole)]

/-- A path below the root leads to the same node in a document and in its tree, or it fails in both
with errors of one kind. If it begins with a key, the errors are the same and name the shortest part
of the path that leads nowhere. In documents and in trees a place is written and read alike. -/
theorem lookups_agree (document : Document) :
    (∀ path, path ≠ [] →
      (∀ node, document.locate path = .ok node ↔ document.toNode.locate path = .ok node) ∧
      ∀ error, document.locate path = .error error →
        ∃ other, document.toNode.locate path = .error other ∧ error.SameKind other) ∧
    (∀ name rest error, document.locate (.key name :: rest) = .error error →
      document.toNode.locate (.key name :: rest) = .error error ∧
        document.toNode.Blames (.key name :: rest) error) ∧
    (∀ path, SamePlace Document.locate Document.slotAt Document.replace document path) ∧
    ∀ node path, SamePlace Node.locate Node.slotAt Node.replace node path := by
  refine ⟨?_, ?_, document.samePlace, Node.samePlace⟩
  · intro path below
    cases path with
    | nil => exact absurd rfl below
    | cons step rest =>
      cases step with
      | key name =>
        rw [locate_key_cons]
        exact ⟨fun _ => Iff.rfl, fun error failed => ⟨error, failed, rfl⟩⟩
      | index position =>
        rw [locate_toNode_index]
        refine ⟨fun _ => ?_, fun error failed => ⟨_, rfl, ?_⟩⟩
        · constructor <;> nofun
        · rw [← Except.error.inj failed]
          rfl
  · intro name rest error failed
    rw [locate_key_cons] at failed
    exact ⟨failed, Node.blames_of_locate_error failed⟩

def shelfDocument : Document :=
  ⟨⟨[("Kernel", .dictionary ⟨[("Add", .sequence [.ofText "Lilu.kext"])]⟩)]⟩⟩

/-- An item is found and replaced, the item behind it is missing, a section does not take an index,
and neither does the root. -/
theorem shelfDocument_lookups :
    shelfDocument.toNode.locate [.key "Kernel", .key "Add", .index 0] =
      .ok (.ofText "Lilu.kext") ∧
    shelfDocument.toNode.Blames [.key "Kernel", .key "Add", .index 1, .key "Path"]
      (.notFound [.key "Kernel", .key "Add", .index 1]) ∧
    shelfDocument.toNode.Blames [.key "Kernel", .index 0]
      (.typeMismatch [.key "Kernel", .index 0] .array .dictionary) ∧
    (∃ other, shelfDocument.toNode.locate [.index 0, .key "Path"] = .error other ∧
      TreeError.SameKind (.typeMismatch [.index 0, .key "Path"] .array .dictionary) other) ∧
    (∀ changed, shelfDocument.replace [.key "Kernel", .key "Add", .index 0] (.ofBool true) =
        .ok changed →
      changed.locate [.key "Kernel", .key "Add", .index 0] = .ok (.ofBool true)) ∧
    shelfDocument.replace [.key "Kernel", .key "Add", .index 0] (.ofText "Lilu.kext") =
      .ok shelfDocument := by
  obtain ⟨agree, blame, place, -⟩ := lookups_agree shelfDocument
  refine ⟨?_, ?_, ?_, ?_, (place _).written _, (place _).restored _ rfl⟩
  · exact ((agree _ (List.cons_ne_nil _ _)).1 _).mp rfl
  · exact (blame "Kernel" [.key "Add", .index 1, .key "Path"] _ rfl).2
  · exact (blame "Kernel" [.index 0] _ rfl).2
  · exact (agree _ (List.cons_ne_nil _ _)).2 _ rfl

end Document
end BootSnapshot
