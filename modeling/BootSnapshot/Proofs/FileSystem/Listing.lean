import BootSnapshot.FileSystem.Disk

set_option autoImplicit false

namespace BootSnapshot

/-- The disk with a record of the directories that were listed, in the order in which they were. -/
def Disk.recording (disk : Disk Id) : Disk (StateM (List String)) where
  canonical path := pure (disk.canonical path).run
  status path := pure (disk.status path).run
  ownKind path := pure (disk.ownKind path).run
  list path := fun listed => ((disk.list path).run, listed ++ [path])
  read path := pure (disk.read path).run
  depthBound := pure disk.depthBound.run

/-- An operation gives a value and lists some directories on the way. -/
def Lists {α : Type} (operation : StateM (List String) α) (value : α) (listed : List String) :
    Prop :=
  ∀ before, operation.run before = (value, before ++ listed)

namespace Lists

variable {α γ : Type}

theorem pure (value : α) : Lists (Pure.pure value) value [] := by
  intro before
  rw [List.append_nil]
  rfl

theorem bind {first : StateM (List String) α} {value : α} {early : List String}
    (start : Lists first value early) {next : α → StateM (List String) γ} {result : γ}
    {late : List String} (further : Lists (next value) result late) :
    Lists (first >>= next) result (early ++ late) := by
  intro before
  have moved : (first >>= next).run before = (next value).run (before ++ early) := by
    change (next (first.run before).1).run (first.run before).2 = _
    rw [start before]
  rw [moved, further, List.append_assoc]

/-- What is computed from a value lists nothing more. -/
theorem bind_pure {first : StateM (List String) α} {value : α} {listed : List String}
    (start : Lists first value listed) (further : α → γ) :
    Lists (first >>= fun found => Pure.pure (further found)) (further value) listed := by
  have whole : Lists (first >>= fun found => Pure.pure (further found)) (further value)
      (listed ++ []) := start.bind (Lists.pure _)
  rwa [List.append_nil] at whole

theorem mapM {operation : α → StateM (List String) γ} {value : α → γ}
    {listed : α → List String} (each : ∀ item, Lists (operation item) (value item) (listed item))
    (items : List α) : Lists (items.mapM operation) (items.map value) (items.flatMap listed) := by
  induction items with
  | nil => exact Lists.pure []
  | cons item rest ih =>
    rw [List.mapM_cons, List.flatMap_cons]
    exact (each item).bind (ih.bind_pure (value item :: ·))

theorem filterM {test : α → StateM (List String) Bool} {holds : α → Bool}
    {listed : α → List String} (each : ∀ item, Lists (test item) (holds item) (listed item))
    (items : List α) : Lists (items.filterM test) (items.filter holds) (items.flatMap listed) := by
  have aux (found : List α) : Lists (items.filterAuxM test found)
      ((items.filter holds).reverse ++ found) (items.flatMap listed) := by
    induction items generalizing found with
    | nil => exact Lists.pure found
    | cons item rest ih =>
      rw [List.filterAuxM, List.flatMap_cons]
      refine (each item).bind ?_
      cases held : holds item with
      | true => simpa [held] using ih (item :: found)
      | false => simpa [held] using ih found
  have whole := (aux []).bind_pure List.reverse
  rwa [List.append_nil, List.reverse_reverse] at whole

/-- Tests that list nothing. -/
theorem filterM_quiet {test : α → StateM (List String) Bool} {holds : α → Bool}
    (each : ∀ item, Lists (test item) (holds item) []) (items : List α) :
    Lists (items.filterM test) (items.filter holds) [] := by
  have whole := filterM each items
  rwa [List.flatMap_eq_nil_iff.mpr fun _ _ => rfl] at whole

end Lists

namespace Disk

theorem lists_list (disk : Disk Id) (path : String) :
    Lists (disk.recording.list path) (disk.list path).run [path] :=
  fun _ => rfl

theorem lists_isDirectory (disk : Disk Id) (path : String) :
    Lists (disk.recording.isDirectory path) (disk.isDirectory path).run [] := by
  unfold isDirectory
  refine (Lists.pure (disk.status path).run).bind ?_
  rw [Id.run_bind]
  cases (disk.status path).run with
  | ok status => exact Lists.pure _
  | error error => exact Lists.pure _

end Disk
end BootSnapshot
