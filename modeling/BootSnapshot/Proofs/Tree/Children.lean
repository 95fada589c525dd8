import BootSnapshot.Proofs.Tree.Entries

set_option autoImplicit false

namespace BootSnapshot.Node

def HasRoom : Node → Segment → Prop
  | .dictionary children, .key name => name ∉ children.keys
  | .sequence items, .index position => position ≤ items.length
  | _, _ => False

instance (node : Node) (step : Segment) : Decidable (node.HasRoom step) :=
  match node, step with
  | .dictionary children, .key name => inferInstanceAs (Decidable (name ∉ children.keys))
  | .sequence items, .index position => inferInstanceAs (Decidable (position ≤ items.length))
  | .dictionary _, .index _ => .isFalse id
  | .sequence _, .key _ => .isFalse id
  | .scalar _, _ => .isFalse id

/-- The children of a node in their order, those of a dictionary with their keys. -/
def contents : Node → List (Option String × Node)
  | .dictionary children => children.entries.map fun entry => (some entry.1, entry.2)
  | .sequence items => items.map fun item => (none, item)
  | .scalar _ => []

def siblings (node : Node) : Segment → List (Option String × Node)
  | .key name => node.contents.eraseP fun entry => entry.1 = some name
  | .index position => node.contents.eraseIdx position

/-- An edit of a node in place, which may fail after it has begun. -/
abbrev InPlace (β : Type) := ExceptT TreeError (StateM Node) β

/-- What an edit in place gives back for a node, and what it makes of the node. -/
def InPlace.on {β : Type} (edit : InPlace β) (node : Node) : Except TreeError β × Node :=
  edit.run.run node

def insertInPlace (step : Segment) (added : Node) : InPlace (Option Node) := do
  let node ← get
  unless node.accepts step do
    throw (node.mismatch step)
  match node, step with
  | .dictionary children, .key name =>
    set (Node.dictionary (children.insert name added))
    return children.get? name
  | .sequence items, .index position =>
    if items.length < position then
      throw (.indexOutOfBounds position items.length)
    set (Node.sequence (items.insertIdx position added))
    return none
  | _, _ => return none

/-- Leaves what is left of a container without a child and gives back the child, if there is one. -/
def release (step : Segment) (child? : Option Node) (left : Node) : InPlace Node := do
  match child? with
  | some child =>
    set left
    return child
  | none => throw (.notFound [step])

def removeInPlace (step : Segment) : InPlace Node := do
  let node ← get
  unless node.accepts step do
    throw (node.mismatch step)
  match node, step with
  | .dictionary children, .key name =>
    release step (children.get? name) (.dictionary (children.remove name))
  | .sequence items, .index position =>
    release step items[position]? (.sequence (items.eraseIdx position))
  | _, _ => throw (.notFound [step])

def setScalarInPlace (content : Scalar) : InPlace Unit := do
  match ← get with
  | .scalar current =>
    if current.kind = content.kind then
      set (Node.scalar content)
    else
      throw (.typeMismatch [] content.kind current.kind)
  | other => throw (.typeMismatch [] content.kind other.kind)

/-- What an edit by value comes to in place. -/
def carryOut {β : Type} (node : Node) : Except TreeError (Node × β) → Except TreeError β × Node
  | .ok (changed, result) => (.ok result, changed)
  | .error error => (.error error, node)

theorem insertInPlace_on (node : Node) (step : Segment) (added : Node) :
    (insertInPlace step added).on node = node.carryOut (node.insertChild step added) := by
  cases node with
  | dictionary children => cases step <;> rfl
  | sequence items =>
    cases step with
    | key name => rfl
    | index position =>
      show InPlace.on (ite (items.length < position) _ _) (sequence items) =
        (sequence items).carryOut (ite (items.length < position) _ _)
      by_cases behind : items.length < position
      · rw [if_pos behind, if_pos behind]
        rfl
      · rw [if_neg behind, if_neg behind, Dictionary.take_append_cons_drop (by omega)]
        rfl
  | scalar content => cases step <;> rfl

theorem removeInPlace_on (node : Node) (step : Segment) :
    (removeInPlace step).on node = node.carryOut (node.removeChild step) := by
  cases node with
  | dictionary children =>
    cases step with
    | key name =>
      show (release _ (children.get? name) _).on _ = carryOut _ (removeChild _ _)
      unfold removeChild
      dsimp only
      cases children.get? name <;> rfl
    | index position => rfl
  | sequence items =>
    cases step with
    | key name => rfl
    | index position =>
      show (release _ items[position]? _).on _ = carryOut _ (removeChild _ _)
      unfold removeChild
      dsimp only
      cases items[position]? <;> rfl
  | scalar content => cases step <;> rfl

theorem setScalarInPlace_on (node : Node) (content : Scalar) :
    (setScalarInPlace content).on node =
      node.carryOut ((node.setScalar content).map fun changed => (changed, ())) := by
  cases node with
  | dictionary children => rfl
  | sequence items => rfl
  | scalar current =>
    show InPlace.on (ite (current.kind = content.kind) _ _) _ =
      carryOut _ (Except.map _ (ite (current.kind = content.kind) _ _))
    by_cases same : current.kind = content.kind
    · rw [if_pos same, if_pos same]
      rfl
    · rw [if_neg same, if_neg same]
      rfl

theorem carryOut_eq_error_iff {β : Type} {node left : Node}
    {outcome : Except TreeError (Node × β)} {error : TreeError} :
    node.carryOut outcome = (.error error, left) ↔ left = node ∧ outcome = .error error := by
  cases outcome with
  | ok result => simp [carryOut]
  | error reason => simp [carryOut, and_comm, eq_comm]

theorem siblings_key (children : Dictionary Node) (name : String) :
    (Node.dictionary children).siblings (.key name) =
      (Node.dictionary (children.remove name)).contents := by
  have counts : ((fun entry : Option String × Node => decide (entry.1 = some name)) ∘
      fun entry : String × Node => (some entry.1, entry.2)) =
      fun entry => decide (entry.1 = name) := by
    funext entry
    simp
  simp only [siblings, contents, Dictionary.remove, Dictionary.drop_eq_eraseP, List.eraseP_map,
    counts]

theorem siblings_index (items : List Node) (position : Nat) :
    (Node.sequence items).siblings (.index position) =
      (Node.sequence (items.eraseIdx position)).contents := by
  simp only [siblings, contents, List.eraseIdx_map]

variable {node changed : Node} {step : Segment}

theorem insertChild_key (children : Dictionary Node) (name : String) (added : Node) :
    (Node.dictionary children).insertChild (.key name) added =
      .ok (.dictionary (children.insert name added), children.get? name) := rfl

theorem insertChild_index {items : List Node} {position : Nat} (inside : position ≤ items.length)
    (added : Node) : (Node.sequence items).insertChild (.index position) added =
      .ok (.sequence (items.insertIdx position added), none) := by
  have within : ¬ items.length < position := by omega
  simp only [insertChild, within, ↓reduceIte, Dictionary.take_append_cons_drop inside]

theorem removeChild_key {children : Dictionary Node} {name : String} {child : Node}
    (held : children.get? name = some child) :
    (Node.dictionary children).removeChild (.key name) =
      .ok (.dictionary (children.remove name), child) := by
  simp only [removeChild, held]

theorem removeChild_index {items : List Node} {position : Nat} {child : Node}
    (held : items[position]? = some child) :
    (Node.sequence items).removeChild (.index position) =
      .ok (.sequence (items.eraseIdx position), child) := by
  simp only [removeChild, held]

/-- A new child is taken out by the step that put it in, and the node is what it was. -/
theorem removeChild_insertChild (room : node.HasRoom step) (added : Node) :
    ∃ changed, node.insertChild step added = .ok (changed, none) ∧
      changed.removeChild step = .ok (node, added) ∧ changed.siblings step = node.contents := by
  cases node with
  | scalar content => cases room
  | dictionary children =>
    cases step with
    | index position => cases room
    | key name =>
      have missing : children.get? name = none := Dictionary.lookup_eq_none_iff.mpr room
      have gone : (children.insert name added).remove name = children := by
        unfold Dictionary.remove Dictionary.insert
        rw [Dictionary.drop_put, Dictionary.drop_of_absent room]
      refine ⟨.dictionary (children.insert name added), ?_, ?_, ?_⟩
      · rw [insertChild_key, missing]
      · rw [removeChild_key (children.get?_insert_self name added), gone]
      · rw [siblings_key, gone]
  | sequence items =>
    cases step with
    | key name => cases room
    | index position =>
      have inside : position ≤ items.length := room
      have held : (items.insertIdx position added)[position]? = some added := by
        rw [List.getElem?_insertIdx_self, if_pos inside]
      refine ⟨.sequence (items.insertIdx position added), insertChild_index room added, ?_, ?_⟩
      · rw [removeChild_index held, List.eraseIdx_insertIdx_self]
      · rw [siblings_index, List.eraseIdx_insertIdx_self]

/-- A child that is put in the place of another one gives it back, and is given back for it. -/
theorem insertChild_insertChild {name : String} {old : Node}
    (found : node.child (.key name) = .ok old) (added : Node) :
    ∃ changed, node.insertChild (.key name) added = .ok (changed, some old) ∧
      changed.insertChild (.key name) old = .ok (node, some added) ∧
      changed.siblings (.key name) = node.siblings (.key name) := by
  obtain ⟨children, other, rfl, same, held⟩ | ⟨items, position, -, other, -⟩ := child_cases found
  · obtain rfl := Segment.key.inj same
    refine ⟨.dictionary (children.insert name added), ?_, ?_, ?_⟩
    · rw [insertChild_key, held]
    · rw [insertChild_key, Dictionary.get?_insert_self, Dictionary.insert_insert,
        Dictionary.insert_get? held]
    · rw [siblings_key, siblings_key]
      unfold Dictionary.remove Dictionary.insert
      rw [Dictionary.drop_put]
  · cases other

/-- A child that a step leads to is taken out by it, and the others are what is left. -/
theorem exists_removeChild {child : Node} (found : node.child step = .ok child) :
    ∃ changed, node.removeChild step = .ok (changed, child) ∧
      changed.contents = node.siblings step := by
  obtain ⟨children, name, rfl, rfl, held⟩ | ⟨items, position, rfl, rfl, held⟩ := child_cases found
  · exact ⟨_, removeChild_key held, (siblings_key children name).symm⟩
  · exact ⟨_, removeChild_index held, (siblings_index items position).symm⟩

theorem insertChild_removeChild {position : Nat} {child : Node}
    (found : node.child (.index position) = .ok child)
    (removed : node.removeChild (.index position) = .ok (changed, child)) :
    changed.insertChild (.index position) child = .ok (node, none) := by
  obtain ⟨children, name, -, other, -⟩ | ⟨items, place, rfl, same, held⟩ := child_cases found
  · cases other
  · obtain rfl := Segment.index.inj same
    obtain ⟨inside, rfl⟩ := List.getElem?_eq_some_iff.mp held
    rw [removeChild_index held] at removed
    obtain ⟨rfl, -⟩ := Prod.mk.inj (Except.ok.inj removed)
    have room : position ≤ (items.eraseIdx position).length := by
      rw [List.length_eraseIdx_of_lt inside]
      omega
    rw [insertChild_index room, List.insertIdx_eraseIdx_getElem inside]

/-- Why a child cannot be put in: the node does not take such steps, or the position is behind its
end. -/
def RefusesChild (node : Node) (step : Segment) (error : TreeError) : Prop :=
  (node.kind ≠ step.container ∧ error = .typeMismatch [step] step.container node.kind) ∨
  ∃ items position, node = .sequence items ∧ step = .index position ∧ items.length < position ∧
    error = .indexOutOfBounds position items.length

/-- A node takes a step to a key or to an index, or it is of another kind than takes the step. -/
theorem step_cases (node : Node) (step : Segment) :
    (∃ children name, node = .dictionary children ∧ step = .key name) ∨
    (∃ items position, node = .sequence items ∧ step = .index position) ∨
    node.kind ≠ step.container := by
  cases node with
  | scalar content => exact Or.inr (Or.inr (kind_scalar_ne_container content step))
  | dictionary children =>
    cases step with
    | key name => exact Or.inl ⟨children, name, rfl, rfl⟩
    | index position => exact Or.inr (Or.inr Kind.noConfusion)
  | sequence items =>
    cases step with
    | key name => exact Or.inr (Or.inr Kind.noConfusion)
    | index position => exact Or.inr (Or.inl ⟨items, position, rfl, rfl⟩)

theorem insertChild_of_mismatch (other : node.kind ≠ step.container) (added : Node) :
    node.insertChild step added = .error (.typeMismatch [step] step.container node.kind) := by
  cases node with
  | scalar content => cases step <;> rfl
  | dictionary children =>
    cases step with
    | key name => exact absurd rfl other
    | index position => rfl
  | sequence items =>
    cases step with
    | key name => rfl
    | index position => exact absurd rfl other

theorem insertChild_eq_error_iff {added : Node} {error : TreeError} :
    node.insertChild step added = .error error ↔ node.RefusesChild step error := by
  unfold RefusesChild
  rcases step_cases node step with ⟨children, name, rfl, rfl⟩ | ⟨items, position, rfl, rfl⟩ | other
  · simp [insertChild_key, kind, Segment.container]
  · by_cases behind : items.length < position
    · simp [insertChild, behind, kind, Segment.container, eq_comm]
    · have inside : position ≤ items.length := by omega
      simp [insertChild_index inside, behind, kind, Segment.container]
  · have known : ¬ ∃ items position, node = .sequence items ∧ step = .index position ∧
        items.length < position ∧ error = .indexOutOfBounds position items.length := by
      rintro ⟨items, position, rfl, rfl, -⟩
      exact other rfl
    rw [insertChild_of_mismatch other, or_iff_left known, Except.error.injEq]
    simp [other, eq_comm]

/-- Taking a child out gives back what the step leads to, or fails like the step. -/
theorem map_snd_removeChild (node : Node) (step : Segment) :
    (node.removeChild step).map Prod.snd = node.child step := by
  cases node with
  | scalar content => cases step <;> rfl
  | dictionary children =>
    cases step with
    | key name =>
      simp only [removeChild, child]
      cases children.get? name <;> rfl
    | index position => rfl
  | sequence items =>
    cases step with
    | key name => rfl
    | index position =>
      simp only [removeChild, child]
      cases items[position]? <;> rfl

theorem removeChild_eq_error_iff {error : TreeError} :
    node.removeChild step = .error error ↔ node.child step = .error error := by
  rw [← map_snd_removeChild]
  cases node.removeChild step <;> simp [Except.map]

theorem child_eq_error_iff {error : TreeError} :
    node.child step = .error error ↔
      (¬ ∃ child, node.child step = .ok child) ∧ error = node.refusal step [step] := by
  cases taken : node.child step with
  | ok child => simp
  | error reason => simp [child_error taken, eq_comm]

theorem setScalar_eq (node : Node) (content : Scalar) :
    node.setScalar content =
      if node.kind = content.kind then .ok (.scalar content)
      else .error (.typeMismatch [] content.kind node.kind) := by
  cases node with
  | scalar current => rfl
  | dictionary children => cases content <;> rfl
  | sequence items => cases content <;> rfl

theorem setScalar_eq_error_iff {content : Scalar} {error : TreeError} :
    node.setScalar content = .error error ↔
      node.kind ≠ content.kind ∧ error = .typeMismatch [] content.kind node.kind := by
  rw [setScalar_eq]
  by_cases same : node.kind = content.kind
  · simp [same]
  · simp [same, eq_comm]

/-- A child that is put in where there was none is given back by the same step, and the node is then
what it was. A child that takes the place of another one gives it back, and is given back for it. A
child that is taken out of a sequence can be put back. All other children keep their values and
their order. In place the edits come to the same, and they fail exactly for the reasons told, with
the node left as it was. -/
theorem edits_undo_and_fail_cleanly (node : Node) :
    (∀ step added, node.HasRoom step →
      ∃ changed, node.insertChild step added = .ok (changed, none) ∧
        changed.removeChild step = .ok (node, added) ∧
        changed.siblings step = node.contents) ∧
    (∀ name old added, node.child (.key name) = .ok old →
      ∃ changed, node.insertChild (.key name) added = .ok (changed, some old) ∧
        changed.insertChild (.key name) old = .ok (node, some added) ∧
        changed.siblings (.key name) = node.siblings (.key name)) ∧
    (∀ step removed, node.child step = .ok removed →
      ∃ changed, node.removeChild step = .ok (changed, removed) ∧
        changed.contents = node.siblings step ∧
        ∀ position, step = .index position → changed.insertChild step removed = .ok (node, none)) ∧
    (∀ step added, (insertInPlace step added).on node =
      node.carryOut (node.insertChild step added)) ∧
    (∀ step, (removeInPlace step).on node = node.carryOut (node.removeChild step)) ∧
    (∀ content, (setScalarInPlace content).on node =
      node.carryOut ((node.setScalar content).map fun changed => (changed, ()))) ∧
    (∀ step added error left, (insertInPlace step added).on node = (.error error, left) ↔
      left = node ∧ node.RefusesChild step error) ∧
    (∀ step error left, (removeInPlace step).on node = (.error error, left) ↔
      left = node ∧ (¬ ∃ child, node.child step = .ok child) ∧
        error = node.refusal step [step]) ∧
    ∀ content error left, (setScalarInPlace content).on node = (.error error, left) ↔
      left = node ∧ node.kind ≠ content.kind ∧
        error = .typeMismatch [] content.kind node.kind := by
  refine ⟨fun step added room => removeChild_insertChild room added,
    fun name old added found => insertChild_insertChild found added, ?_,
    node.insertInPlace_on, node.removeInPlace_on, node.setScalarInPlace_on, ?_, ?_, ?_⟩
  · intro step removed found
    obtain ⟨changed, taken, others⟩ := exists_removeChild found
    refine ⟨changed, taken, others, ?_⟩
    rintro position rfl
    exact insertChild_removeChild found taken
  · intro step added error left
    rw [insertInPlace_on, carryOut_eq_error_iff, insertChild_eq_error_iff]
  · intro step error left
    rw [removeInPlace_on, carryOut_eq_error_iff, removeChild_eq_error_iff, child_eq_error_iff]
  · intro content error left
    rw [setScalarInPlace_on, carryOut_eq_error_iff, ← setScalar_eq_error_iff]
    cases node.setScalar content <;> simp [Except.map]

def kernelSection : Node :=
  .dictionary ⟨[("Add", .sequence [.ofText "Lilu.kext"]), ("Scheme", .ofBool true)]⟩

def kernelList : Node := .sequence [.ofText "Lilu.kext", .ofText "Plugin.kext"]

theorem kernelSection_edited :
    (∃ changed, kernelSection.insertChild (.key "Force") kernelList = .ok (changed, none) ∧
      changed.removeChild (.key "Force") = .ok (kernelSection, kernelList)) ∧
    (∃ changed, kernelSection.insertChild (.key "Scheme") kernelList =
        .ok (changed, some (.ofBool true)) ∧
      changed.insertChild (.key "Scheme") (.ofBool true) =
        .ok (kernelSection, some kernelList) ∧
      changed.siblings (.key "Scheme") =
        [(some "Add", .sequence [.ofText "Lilu.kext"])]) ∧
    (∃ changed, kernelList.insertChild (.index 2) kernelSection = .ok (changed, none) ∧
      changed.removeChild (.index 2) = .ok (kernelList, kernelSection)) ∧
    (∃ changed, kernelList.removeChild (.index 0) = .ok (changed, .ofText "Lilu.kext") ∧
      changed.contents = [(none, .ofText "Plugin.kext")] ∧
      changed.insertChild (.index 0) (.ofText "Lilu.kext") = .ok (kernelList, none)) ∧
    (insertInPlace (.index 3) kernelSection).on kernelList =
      (.error (.indexOutOfBounds 3 2), kernelList) ∧
    (removeInPlace (.index 2)).on kernelList = (.error (.notFound [.index 2]), kernelList) ∧
    (removeInPlace (.index 0)).on kernelSection =
      (.error (.typeMismatch [.index 0] .array .dictionary), kernelSection) ∧
    (setScalarInPlace (.string "Auto")).on kernelList =
      (.error (.typeMismatch [] .string .array), kernelList) := by
  obtain ⟨fresh, again, -, -, -, -, -, untaken, -⟩ := edits_undo_and_fail_cleanly kernelSection
  obtain ⟨taken, -, back, -, -, -, refused, missing, unset⟩ := edits_undo_and_fail_cleanly kernelList
  refine ⟨?_, again "Scheme" (.ofBool true) kernelList rfl, ?_, ?_, ?_, ?_, ?_, ?_⟩
  · obtain ⟨changed, inserted, removed, -⟩ := fresh (.key "Force") kernelList (by decide)
    exact ⟨changed, inserted, removed⟩
  · obtain ⟨changed, inserted, removed, -⟩ := taken (.index 2) kernelSection (by decide)
    exact ⟨changed, inserted, removed⟩
  · obtain ⟨changed, removed, others, inserted⟩ := back (.index 0) (.ofText "Lilu.kext") rfl
    exact ⟨changed, removed, others, inserted 0 rfl⟩
  · exact (refused _ _ _ _).mpr ⟨rfl, Or.inr ⟨_, 3, rfl, rfl, by decide, rfl⟩⟩
  · exact (missing _ _ _).mpr ⟨rfl, by rintro ⟨child, ⟨⟩⟩, rfl⟩
  · exact (untaken _ _ _).mpr ⟨rfl, by rintro ⟨child, ⟨⟩⟩, rfl⟩
  · exact (unset _ _ _).mpr ⟨rfl, by decide, rfl⟩

end BootSnapshot.Node
