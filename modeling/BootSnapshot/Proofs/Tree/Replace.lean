import BootSnapshot.Proofs.Tree.Step

set_option autoImplicit false

namespace BootSnapshot

namespace TreeError

theorem below_nil (error : TreeError) : error.below [] = error := by
  cases error <;> rfl

theorem below_below (error : TreeError) (inner outer : Path) :
    (error.below inner).below outer = error.below (outer ++ inner) := by
  cases error <;> simp only [below, List.append_assoc]

end TreeError

namespace Node

/-- The outcome of a walk that began where another path led, told from the start of that path. -/
def fromStart {α : Type} (start : Path) (outcome : Except TreeError α) : Except TreeError α :=
  outcome.mapError (·.below start)

theorem fromStart_ok {α : Type} (start : Path) (result : α) :
    fromStart start (.ok result) = .ok result := rfl

theorem fromStart_error {α : Type} (start : Path) (error : TreeError) :
    fromStart (α := α) start (.error error) = .error (error.below start) := rfl

theorem fromStart_nil {α : Type} (outcome : Except TreeError α) : fromStart [] outcome = outcome := by
  cases outcome with
  | ok result => rfl
  | error error => exact congrArg Except.error error.below_nil

theorem fromStart_fromStart {α : Type} (outcome : Except TreeError α) (inner outer : Path) :
    fromStart outer (fromStart inner outcome) = fromStart (outer ++ inner) outcome := by
  cases outcome with
  | ok result => rfl
  | error error => exact congrArg Except.error (error.below_below inner outer)

theorem locateFrom_eq (walked : Path) (node : Node) (path : Path) :
    locateFrom walked node path = fromStart walked (node.locate path) := by
  induction path generalizing walked node with
  | nil => rfl
  | cons step rest ih =>
    unfold locate
    simp only [locateFrom]
    cases taken : node.child step with
    | ok next =>
      dsimp only
      rw [ih, ih, List.nil_append, fromStart_fromStart]
    | error error =>
      rw [child_error taken]
      simp only [fromStart_error, relocate_refusal, below_refusal, List.nil_append]

theorem locate_cons (node : Node) (step : Segment) (rest : Path) :
    node.locate (step :: rest) =
      (node.child step).bind fun next => fromStart [step] (next.locate rest) := by
  rw [locate, locateFrom]
  cases taken : node.child step with
  | ok next => exact locateFrom_eq [step] next rest
  | error error =>
    rw [child_error taken]
    simp only [relocate_refusal, List.nil_append, Except.bind]

/-- A walk that goes on from where another one ends leads to a node only if both do. -/
theorem bind_locate_eq_ok_iff {reached : Except TreeError Node} {start rest : Path} {found : Node} :
    (reached.bind fun next => fromStart start (next.locate rest)) = .ok found ↔
      ∃ next, reached = .ok next ∧ next.locate rest = .ok found := by
  cases reached with
  | error error => simp only [Except.bind, reduceCtorEq, false_and, exists_false]
  | ok next =>
    simp only [Except.bind, Except.ok.injEq, exists_eq_left']
    cases next.locate rest <;> simp only [fromStart_ok, fromStart_error, reduceCtorEq]

theorem locate_cons_eq_ok_iff {node found : Node} {step : Segment} {rest : Path} :
    node.locate (step :: rest) = .ok found ↔
      ∃ next, node.child step = .ok next ∧ next.locate rest = .ok found := by
  rw [locate_cons]
  exact bind_locate_eq_ok_iff

/-- A path of two stretches leads where the second one leads from where the first one does. -/
theorem locate_append (node : Node) (front back : Path) :
    node.locate (front ++ back) =
      (node.locate front).bind fun next => fromStart front (next.locate back) := by
  induction front generalizing node with
  | nil => exact (fromStart_nil _).symm
  | cons step rest ih =>
    rw [List.cons_append, locate_cons, locate_cons]
    cases node.child step with
    | error error => rfl
    | ok next =>
      simp only [Except.bind, ih]
      cases next.locate rest with
      | error error => rfl
      | ok last => exact fromStart_fromStart _ rest [step]

theorem locate_append_eq_ok_iff {node found : Node} {front back : Path} :
    node.locate (front ++ back) = .ok found ↔
      ∃ next, node.locate front = .ok next ∧ next.locate back = .ok found := by
  rw [locate_append]
  exact bind_locate_eq_ok_iff

theorem replaceFrom_eq (walked : Path) (node new : Node) (path : Path) :
    replaceFrom walked node new path = fromStart walked (node.replace path new) := by
  induction path generalizing walked node with
  | nil => rfl
  | cons step rest ih =>
    unfold replace
    simp only [replaceFrom]
    cases taken : node.child step with
    | ok next =>
      dsimp only
      rw [ih, ih, List.nil_append, ← fromStart_fromStart]
      cases fromStart [step] (next.replace rest new) with
      | error error => rfl
      | ok inner =>
        -- writing the changed child back cannot fail, since the step led to one
        obtain ⟨changed, replaced⟩ := exists_replaceChild taken inner
        show node.replaceChild step inner = fromStart walked (node.replaceChild step inner)
        rw [replaced]
        rfl
    | error error =>
      rw [child_error taken]
      simp only [fromStart_error, relocate_refusal, below_refusal, List.nil_append]

theorem replace_cons (node : Node) (step : Segment) (rest : Path) (new : Node) :
    node.replace (step :: rest) new =
      (node.child step).bind fun next =>
        (fromStart [step] (next.replace rest new)).bind (node.replaceChild step) := by
  rw [replace, replaceFrom]
  cases taken : node.child step with
  | ok next =>
    dsimp only
    rw [replaceFrom_eq, List.nil_append]
    show _ = (fromStart [step] (next.replace rest new)).bind (node.replaceChild step)
    cases next.replace rest new <;> rfl
  | error error =>
    rw [child_error taken]
    simp only [relocate_refusal, List.nil_append, Except.bind]

/-- One step into a change: the child is changed along the rest of the path and written back. -/
theorem replace_cons_eq_ok_iff {node new changed : Node} {step : Segment} {rest : Path} :
    node.replace (step :: rest) new = .ok changed ↔
      ∃ next inner, node.child step = .ok next ∧ next.replace rest new = .ok inner ∧
        node.replaceChild step inner = .ok changed := by
  rw [replace_cons]
  constructor
  · intro replaced
    cases taken : node.child step with
    | error error =>
      rw [taken] at replaced
      cases replaced
    | ok next =>
      rw [taken] at replaced
      simp only [Except.bind] at replaced
      cases below : next.replace rest new with
      | error error =>
        rw [below] at replaced
        cases replaced
      | ok inner =>
        rw [below] at replaced
        exact ⟨next, inner, rfl, below, replaced⟩
  · rintro ⟨next, inner, taken, below, replaced⟩
    rw [taken]
    simp only [Except.bind, below]
    exact replaced

/-- A path can be written to exactly where it leads to a node, and fails alike elsewhere. -/
theorem replace_eq_error_iff {node : Node} {path : Path} {error : TreeError} (new : Node) :
    node.replace path new = .error error ↔ node.locate path = .error error := by
  induction path generalizing node error with
  | nil => constructor <;> nofun
  | cons step rest ih =>
    rw [replace_cons, locate_cons]
    cases taken : node.child step with
    | error error => exact Iff.rfl
    | ok next =>
      simp only [Except.bind]
      cases replaced : next.replace rest new with
      | error error =>
        rw [ih.mp replaced]
        exact Iff.rfl
      | ok inner =>
        obtain ⟨changed, back⟩ := exists_replaceChild taken inner
        cases located : next.locate rest with
        | error error =>
          rw [ih.mpr located] at replaced
          cases replaced
        | ok found =>
          show node.replaceChild step inner = _ ↔ _
          rw [back]
          constructor <;> nofun

variable {node new changed : Node} {path : Path}

theorem exists_replace {old : Node} (found : node.locate path = .ok old) (new : Node) :
    ∃ changed, node.replace path new = .ok changed := by
  cases replaced : node.replace path new with
  | ok changed => exact ⟨changed, rfl⟩
  | error error =>
    rw [(replace_eq_error_iff new).mp replaced] at found
    cases found

/-- A node that replaces another one at a path is found there with all that is below it. -/
theorem locate_replace_self (replaced : node.replace path new = .ok changed) :
    changed.locate path = .ok new := by
  induction path generalizing node changed with
  | nil => exact replaced.symm
  | cons step rest ih =>
    obtain ⟨next, inner, taken, below, back⟩ := replace_cons_eq_ok_iff.mp replaced
    rw [locate_cons, child_replaceChild_self back]
    simp only [Except.bind, ih below]
    rfl

/-- Paths that part from the changed one lead where they led before, or fail as before. -/
theorem locate_replace_apart (replaced : node.replace path new = .ok changed) {other : Path}
    (notAbove : ¬ other <+: path) (notBelow : ¬ path <+: other) :
    changed.locate other = node.locate other := by
  induction path generalizing node changed other with
  | nil => exact absurd List.nil_prefix notBelow
  | cons step rest ih =>
    obtain ⟨next, inner, taken, below, back⟩ := replace_cons_eq_ok_iff.mp replaced
    cases other with
    | nil => exact absurd List.nil_prefix notAbove
    | cons another others =>
      rw [locate_cons, locate_cons]
      by_cases same : another = step
      · subst same
        have notAbove' : ¬ others <+: rest := fun inside =>
          notAbove (List.cons_prefix_cons.mpr ⟨rfl, inside⟩)
        have notBelow' : ¬ rest <+: others := fun inside =>
          notBelow (List.cons_prefix_cons.mpr ⟨rfl, inside⟩)
        rw [child_replaceChild_self back, taken]
        simp only [Except.bind, ih below notAbove' notBelow']
      · rw [child_replaceChild_ne back same]

/-- Of two nodes written at one path the second one counts. -/
theorem replace_replace (replaced : node.replace path new = .ok changed) (newer : Node) :
    changed.replace path newer = node.replace path newer := by
  induction path generalizing node changed with
  | nil => rfl
  | cons step rest ih =>
    obtain ⟨next, inner, taken, below, back⟩ := replace_cons_eq_ok_iff.mp replaced
    rw [replace_cons, replace_cons, child_replaceChild_self back, taken]
    simp only [Except.bind, ih below]
    cases fromStart [step] (next.replace rest newer) with
    | error error => rfl
    | ok last => exact replaceChild_replaceChild back last

/-- Writing what is there changes nothing. -/
theorem replace_locate {old : Node} (found : node.locate path = .ok old) :
    node.replace path old = .ok node := by
  induction path generalizing node with
  | nil => exact found.symm
  | cons step rest ih =>
    obtain ⟨next, taken, located⟩ := locate_cons_eq_ok_iff.mp found
    exact replace_cons_eq_ok_iff.mpr ⟨next, next, taken, ih located, replaceChild_child taken⟩

/-- A change at a path of two stretches is a change at the first one, to what the second one makes of
the node there. -/
theorem exists_of_replace_append {front back : Path}
    (replaced : node.replace (front ++ back) new = .ok changed) :
    ∃ before after, node.locate front = .ok before ∧ before.replace back new = .ok after ∧
      node.replace front after = .ok changed := by
  induction front generalizing node changed with
  | nil => exact ⟨node, changed, rfl, replaced, rfl⟩
  | cons step rest ih =>
    obtain ⟨next, inner, taken, below, written⟩ := replace_cons_eq_ok_iff.mp replaced
    obtain ⟨before, after, located, replaced', written'⟩ := ih below
    exact ⟨before, after, locate_cons_eq_ok_iff.mpr ⟨next, taken, located⟩, replaced',
      replace_cons_eq_ok_iff.mpr ⟨next, inner, taken, written', written⟩⟩

/-- The containers on the way to a changed node keep their form. -/
theorem exists_sameForm {front back : Path} {step : Segment}
    (replaced : node.replace (front ++ step :: back) new = .ok changed) :
    ∃ before after, node.locate front = .ok before ∧ changed.locate front = .ok after ∧
      before.SameForm after := by
  obtain ⟨before, after, located, inside, written⟩ := exists_of_replace_append replaced
  obtain ⟨next, inner, -, -, stepped⟩ := replace_cons_eq_ok_iff.mp inside
  exact ⟨before, after, located, locate_replace_self written, sameForm_replaceChild stepped⟩

theorem HasDistinctKeys.replace (distinct : node.HasDistinctKeys) (inner : new.HasDistinctKeys)
    (replaced : node.replace path new = .ok changed) : changed.HasDistinctKeys := by
  induction path generalizing node changed with
  | nil => exact Except.ok.inj replaced ▸ inner
  | cons step rest ih =>
    obtain ⟨next, below, taken, changes, written⟩ := replace_cons_eq_ok_iff.mp replaced
    exact distinct.replaceChild (ih (distinct.child taken) changes) written

/-- Writing a node where a path leads to another one changes what is below the path and nothing else.
What the path and its extensions lead to is what the written node holds, with errors told from the
root. Paths that part from it lead where they led before, or fail as before. The containers on the
way keep their kinds, the numbers of their children and the order of their keys, and keys stay
distinct. Writing the old node back restores the tree, and of two nodes written the last one counts. -/
theorem replace_changes_only_below {old : Node} (found : node.locate path = .ok old) (new : Node) :
    ∃ changed, node.replace path new = .ok changed ∧
      (∀ rest, changed.locate (path ++ rest) = (new.locate rest).mapError (·.below path)) ∧
      (∀ other, ¬ other <+: path → ¬ path <+: other →
        changed.locate other = node.locate other) ∧
      (∀ front step back, path = front ++ step :: back →
        ∃ before after, node.locate front = .ok before ∧ changed.locate front = .ok after ∧
          before.SameForm after) ∧
      (node.HasDistinctKeys → new.HasDistinctKeys → changed.HasDistinctKeys) ∧
      changed.replace path old = .ok node ∧
      ∀ newer, changed.replace path newer = node.replace path newer := by
  obtain ⟨changed, replaced⟩ := exists_replace found new
  refine ⟨changed, replaced, ?_, ?_, ?_, ?_, ?_, replace_replace replaced⟩
  · intro rest
    rw [locate_append, locate_replace_self replaced]
    rfl
  · intro other notAbove notBelow
    exact locate_replace_apart replaced notAbove notBelow
  · rintro front step back rfl
    exact exists_sameForm replaced
  · intro distinct inner
    exact distinct.replace inner replaced
  · rw [replace_replace replaced]
    exact replace_locate found

def listsTree : Node := .dictionary ⟨[
  ("Kernel", .dictionary ⟨[("Add", .sequence [.ofText "a", .ofText "b"]), ("Block", .sequence [])]⟩),
  ("Misc", .ofBool true)]⟩

theorem hasDistinctKeys_listsTree : listsTree.HasDistinctKeys := by
  have items : (Node.sequence [.ofText "a", .ofText "b"]).HasDistinctKeys := by
    refine .sequence ?_
    simp only [List.forall_mem_cons, List.not_mem_nil, false_implies, implies_true, and_true]
    exact ⟨.scalar _, .scalar _⟩
  refine .dictionary (by decide) ?_
  simp only [List.forall_mem_cons, List.not_mem_nil, false_implies, implies_true, and_true]
  refine ⟨.dictionary (by decide) ?_, .scalar _⟩
  simp only [List.forall_mem_cons, List.not_mem_nil, false_implies, implies_true, and_true]
  exact ⟨items, .sequence (List.forall_mem_nil _)⟩

theorem listsTree_changed :
    listsTree.locate [.key "Kernel", .key "Add", .index 1] = .ok (.ofText "b") ∧
    ∃ changed, listsTree.replace [.key "Kernel", .key "Add", .index 1]
        (.dictionary ⟨[("Path", .ofText "c")]⟩) = .ok changed ∧
      changed.locate [.key "Kernel", .key "Add", .index 1, .key "Path"] = .ok (.ofText "c") ∧
      changed.locate [.key "Kernel", .key "Add", .index 1, .key "Name"] =
        .error (.notFound [.key "Kernel", .key "Add", .index 1, .key "Name"]) ∧
      changed.locate [.key "Kernel", .key "Add", .index 0] = .ok (.ofText "a") ∧
      changed.HasDistinctKeys ∧
      changed.replace [.key "Kernel", .key "Add", .index 1] (.ofText "b") = .ok listsTree := by
  have found : listsTree.locate [.key "Kernel", .key "Add", .index 1] = .ok (.ofText "b") := rfl
  have inner : (Node.dictionary ⟨[("Path", .ofText "c")]⟩).HasDistinctKeys := by
    refine .dictionary (by decide) ?_
    simp only [List.forall_mem_cons, List.not_mem_nil, false_implies, implies_true, and_true]
    exact .scalar _
  obtain ⟨changed, replaced, inside, apart, -, keys, back, -⟩ :=
    replace_changes_only_below found (.dictionary ⟨[("Path", .ofText "c")]⟩)
  refine ⟨found, changed, replaced, inside [.key "Path"], inside [.key "Name"], ?_,
    keys hasDistinctKeys_listsTree inner, back⟩
  exact (apart [.key "Kernel", .key "Add", .index 0] (by decide) (by decide)).trans rfl

end Node
end BootSnapshot
