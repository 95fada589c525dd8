import BootSnapshot.Proofs.FileSystem.DiskPath
import BootSnapshot.Proofs.Scan.Order

set_option autoImplicit false

namespace BootSnapshot

/-- A disk shows what stands at a path and below, with fewer than so many directories one in the
other. Where links lead is left to the disk. -/
inductive Disk.Shows (disk : Disk Id) : Nat → String → Entry → Prop
  | file {levels : Nat} {path : String} (content : List UInt8) :
    disk.Shows levels path (.file content)
  | link {levels : Nat} {path : String} (target : String) : disk.Shows levels path (.link target)
  | directory {levels : Nat} {path : String} {members : List (String × Entry)}
    (listed : (disk.list path).run =
      .ok { members := members.map fun member => (member.1, member.2.kind) })
    (below : ∀ member ∈ members, disk.Shows levels (DiskPath.join path member.1) member.2) :
    disk.Shows (levels + 1) path (.directory members)

namespace Entry

def HasNames (entry : Entry) : Prop :=
  ∀ names found, entry.at? names = some found → ∀ name ∈ names, DiskPath.IsName name.toList

end Entry

/-- A path leads, maybe by a link, to a directory with the given members. -/
structure Disk.ShowsTree (disk : Disk Id) (path : String) (members : List (String × Entry)) :
    Prop where
  kind : ∃ kind, (disk.ownKind path).run = .ok kind ∧ kind ≠ .file
  isDirectory : (disk.isDirectory path).run = true
  shows : disk.Shows disk.depthBound.run path (.directory members)
  distinct : (Entry.directory members).HasDistinctNames
  named : (Entry.directory members).HasNames

namespace Entry

mutual

/-- Whether the names below an entry can stand in directories, each once in its own. -/
def isWellNamed : Entry → Bool
  | .directory members => decide (members.map Prod.fst).Nodup && areWellNamed members
  | _ => true

def areWellNamed : List (String × Entry) → Bool
  | [] => true
  | (name, entry) :: rest =>
    decide (DiskPath.IsName name.toList) && entry.isWellNamed && areWellNamed rest

end

theorem areWellNamed_iff {members : List (String × Entry)} :
    areWellNamed members = true ↔
      ∀ member ∈ members, DiskPath.IsName member.1.toList ∧ member.2.isWellNamed = true := by
  induction members with
  | nil => simp [areWellNamed]
  | cons member rest ih =>
    obtain ⟨name, entry⟩ := member
    simp [areWellNamed, ih]

/-- What stands somewhere below a well named entry is well named, and so is the way to it. -/
theorem isWellNamed_at {entry found : Entry} {names : List String}
    (well : entry.isWellNamed = true) (held : entry.at? names = some found) :
    found.isWellNamed = true ∧ ∀ name ∈ names, DiskPath.IsName name.toList := by
  induction names generalizing entry with
  | nil =>
    rw [← Option.some_inj.mp held]
    exact ⟨well, fun _ inside => absurd inside List.not_mem_nil⟩
  | cons name rest ih =>
    cases entry with
    | file content | link target => cases held
    | directory members =>
      rw [isWellNamed, Bool.and_eq_true, decide_eq_true_eq, areWellNamed_iff] at well
      rw [at?] at held
      split at held
      · rename_i child present
        obtain ⟨named, below⟩ := well.2 _ ((mem_iff_member? well.1).mpr present)
        obtain ⟨good, later⟩ := ih below held
        exact ⟨good, List.forall_mem_cons.mpr ⟨named, later⟩⟩
      · cases held

theorem hasNames_of_isWellNamed {entry : Entry} (well : entry.isWellNamed = true) :
    entry.HasNames :=
  fun _ _ held => (isWellNamed_at well held).2

theorem hasDistinctNames_of_isWellNamed {entry : Entry} (well : entry.isWellNamed = true) :
    entry.HasDistinctNames := by
  intro names members held
  have good := (isWellNamed_at well held).1
  rw [isWellNamed, Bool.and_eq_true] at good
  exact of_decide_eq_true good.1

/-- An entry stands below another one where names lead to, none of them hidden. -/
structure VisibleAt (root : Entry) (names : List String) (entry : Entry) : Prop where
  below : names ≠ []
  held : root.at? names = some entry
  visible : ∀ name ∈ names, name.toList.head? ≠ some '.'

mutual

/-- All that is below an entry and not hidden, with the names that lead to it. -/
def visibleBelow : Entry → List (List String × Entry)
  | .directory members => visibleAmong members
  | _ => []

def visibleAmong : List (String × Entry) → List (List String × Entry)
  | [] => []
  | (name, entry) :: rest =>
    (if Traversal.isHidden name then []
      else ([name], entry) :: entry.visibleBelow.map (Prod.map (name :: ·) id)) ++
    visibleAmong rest

end

/-- What a member of a directory adds. -/
def visibleOf (member : String × Entry) : List (List String × Entry) :=
  if Traversal.isHidden member.1 then []
  else ([member.1], member.2) :: member.2.visibleBelow.map (Prod.map (member.1 :: ·) id)

theorem visibleAmong_eq (members : List (String × Entry)) :
    visibleAmong members = members.flatMap visibleOf := by
  induction members with
  | nil => rfl
  | cons member rest ih =>
    obtain ⟨name, entry⟩ := member
    rw [visibleAmong, ih, List.flatMap_cons, visibleOf]

/-- What is below a member of a directory has the member's name on the way to it. -/
theorem mem_visibleOf_iff {member : String × Entry} {names : List String} {found : Entry} :
    (names, found) ∈ visibleOf member ↔ member.1.toList.head? ≠ some '.' ∧
      ∃ rest, names = member.1 :: rest ∧
        (rest = [] ∧ found = member.2 ∨ (rest, found) ∈ member.2.visibleBelow) := by
  unfold visibleOf Traversal.isHidden
  by_cases hidden : member.1.toList.head? = some '.'
  · simp [hidden]
  · simp only [hidden, decide_false, Bool.false_eq_true, ↓reduceIte, List.mem_cons, Prod.mk.injEq,
      List.mem_map, Prod.map, id, Prod.exists, ne_eq, not_false_eq_true, true_and]
    constructor
    · rintro (⟨rfl, rfl⟩ | ⟨rest, _, inside, rfl, rfl⟩)
      · exact ⟨[], rfl, Or.inl ⟨rfl, rfl⟩⟩
      · exact ⟨rest, rfl, Or.inr inside⟩
    · rintro ⟨rest, rfl, ⟨rfl, rfl⟩ | inside⟩
      · exact Or.inl ⟨rfl, rfl⟩
      · exact Or.inr ⟨rest, found, inside, rfl, rfl⟩

theorem not_mem_visibleBelow_nil (entry found : Entry) : ([], found) ∉ entry.visibleBelow := by
  cases entry with
  | file content | link target => exact List.not_mem_nil
  | directory members =>
    rw [visibleBelow, visibleAmong_eq, List.mem_flatMap]
    rintro ⟨member, -, inside⟩
    obtain ⟨-, rest, same, -⟩ := mem_visibleOf_iff.mp inside
    cases same

theorem mem_visibleBelow_iff {entry found : Entry} {names : List String}
    (distinct : entry.HasDistinctNames) :
    (names, found) ∈ entry.visibleBelow ↔ entry.VisibleAt names found := by
  induction names generalizing entry with
  | nil => exact iff_of_false (not_mem_visibleBelow_nil entry found) fun seen => seen.below rfl
  | cons name rest ih =>
    cases entry with
    | file content | link target =>
      refine iff_of_false List.not_mem_nil fun seen => ?_
      cases seen.held
    | directory members =>
      have single := distinct [] members rfl
      have way (child : Entry) (held : member? name members = some child) :
          child.HasDistinctNames ∧ (directory members).at? (name :: rest) = child.at? rest := by
        refine ⟨distinct.at ((at?_single members name).trans held), ?_⟩
        rw [at?, held]
      rw [visibleBelow, visibleAmong_eq, List.mem_flatMap]
      constructor
      · rintro ⟨⟨_, child⟩, member, inside⟩
        obtain ⟨visible, _, same, here⟩ := mem_visibleOf_iff.mp inside
        obtain ⟨rfl, rfl⟩ := List.cons.inj same
        obtain ⟨distinct', further⟩ := way child ((mem_iff_member? single).mp member)
        rcases here with ⟨rfl, rfl⟩ | deeper
        · refine ⟨List.cons_ne_nil _ _, further, fun other one => ?_⟩
          rw [List.mem_singleton.mp one]
          exact visible
        · have seen := (ih distinct').mp deeper
          exact ⟨List.cons_ne_nil _ _, further.trans seen.held,
            List.forall_mem_cons.mpr ⟨visible, seen.visible⟩⟩
      · intro seen
        obtain ⟨visible, later⟩ := List.forall_mem_cons.mp seen.visible
        have held := seen.held
        cases present : member? name members with
        | none => simp [at?, present] at held
        | some child =>
          obtain ⟨distinct', further⟩ := way child present
          refine ⟨(name, child), (mem_iff_member? single).mpr present,
            mem_visibleOf_iff.mpr ⟨visible, rest, rfl, ?_⟩⟩
          rw [further] at held
          by_cases last : rest = []
          · subst last
            exact Or.inl ⟨rfl, (Option.some_inj.mp held).symm⟩
          · exact Or.inr ((ih distinct').mpr ⟨last, held, later⟩)

/-- Nothing below an entry comes twice. -/
theorem nodup_visibleBelow : ∀ entry : Entry, entry.HasDistinctNames →
    (entry.visibleBelow.map Prod.fst).Nodup
  | .file _, _ => List.nodup_nil
  | .link _, _ => List.nodup_nil
  | .directory members, distinct => by
    have single := distinct [] members rfl
    rw [visibleBelow, visibleAmong_eq, List.map_flatMap, List.nodup_flatMap]
    constructor
    · rintro ⟨name, child⟩ member
      have below := nodup_visibleBelow child
        (distinct.at ((at?_single members name).trans ((mem_iff_member? single).mp member)))
      unfold visibleOf
      split
      · exact List.nodup_nil
      · rw [List.map_cons, List.map_map, List.nodup_cons]
        refine ⟨fun inside => ?_, ?_⟩
        · obtain ⟨⟨names, found⟩, deeper, same⟩ := List.mem_map.mp inside
          obtain rfl : names = [] := (List.cons.inj same).2
          exact not_mem_visibleBelow_nil child found deeper
        · have longer := below.map (List.cons_injective (a := name))
          rwa [List.map_map] at longer
    · refine (List.pairwise_map.mp single).imp fun {one other} differ => ?_
      intro names first second
      obtain ⟨⟨_, _⟩, inside, rfl⟩ := List.mem_map.mp first
      obtain ⟨⟨_, _⟩, inside', same⟩ := List.mem_map.mp second
      obtain ⟨-, rest, start, -⟩ := mem_visibleOf_iff.mp inside
      obtain ⟨-, rest', start', -⟩ := mem_visibleOf_iff.mp inside'
      have starts : other.1 :: rest' = one.1 :: rest := start'.symm.trans (same.trans start)
      exact differ (List.cons.inj starts).1.symm
termination_by entry => sizeOf entry
decreasing_by
  have smaller := List.sizeOf_lt_of_mem member
  simp only [Prod.mk.sizeOf_spec] at smaller
  simp only [directory.sizeOf_spec]
  omega

end Entry

theorem Disk.isDirectory_iff {disk : Disk Id} {path : String} :
    (disk.isDirectory path).run = true ↔
      ∃ status, (disk.status path).run = .ok status ∧ status.kind = .directory := by
  unfold isDirectory
  rw [Id.run_bind]
  cases (disk.status path).run with
  | error error => simp
  | ok status => simp

namespace Traversal

/-- The visit of what stands where names lead from a directory. -/
def visitAt (directory : String) (found : List String × Entry) : Visit :=
  ⟨DiskPath.follow directory found.1, found.2.kind, found.2.kind = .link⟩

variable {disk : Disk Id}

/-- The steps at a member of a directory, given the steps below it. -/
theorem stepsAt_member {fuel depth : Nat} {ancestors : List Ancestor} {directory name : String}
    {entry : Entry}
    (below : ∀ inner, entry = .directory inner →
      (goThrough disk {} fuel (depth + 1) ancestors (DiskPath.join directory name)).run =
        (Entry.visibleAmong inner).map fun found =>
          .ok (visitAt (DiskPath.join directory name) found)) :
    stepsAt disk {} fuel depth ancestors directory (name, entry.kind) =
      (Entry.visibleOf (name, entry)).map fun found => .ok (visitAt directory found) := by
  have visited : (visit disk {} ancestors (DiskPath.join directory name) entry.kind).run =
      .ok (visitAt directory ([name], entry)) := by
    simp [visit, visitAt, DiskPath.follow]
  unfold stepsAt Entry.visibleOf
  dsimp only
  rw [visited]
  dsimp only
  split
  · rfl
  · rw [List.map_cons, List.map_map]
    cases entry with
    | file content | link target => rfl
    | directory inner =>
      have kind : (visitAt directory ([name], .directory inner)).kind = .directory := rfl
      have path : (visitAt directory ([name], .directory inner)).path =
          DiskPath.join directory name := rfl
      rw [if_pos kind, path, below inner rfl]
      -- The names on the way to an inner entry begin with the name of the member.
      rfl

/-- Whoever goes through a directory that a disk shows visits all that is visible in it. -/
theorem goThrough_shown {levels : Nat} {directory : String} {members : List (String × Entry)}
    (shown : disk.Shows levels directory (.directory members)) (depth : Nat)
    (ancestors : List Ancestor) :
    (goThrough disk {} levels depth ancestors directory).run =
      (Entry.visibleAmong members).map fun found => .ok (visitAt directory found) := by
  induction levels generalizing depth ancestors directory members with
  | zero => cases shown
  | succ levels ih =>
    cases shown with
    | directory listed below =>
      have entered : (enter disk {} ancestors directory).run = ancestors := rfl
      rw [goThrough_succ, if_neg (by simp), listed, entered]
      dsimp only
      rw [List.map_nil, List.nil_append, List.flatMap_map, Entry.visibleAmong_eq, List.map_flatMap]
      refine List.flatMap_congr fun member inside => stepsAt_member fun inner folder => ?_
      exact ih (folder ▸ below member inside) (depth + 1) ancestors

/-- Whoever starts at a directory that a disk shows visits it and all below it that is visible. -/
theorem start_shown {directory : String} {members : List (String × Entry)}
    (shown : disk.ShowsTree directory members) :
    ∃ kind, kind ≠ .file ∧ (start disk {} directory).run =
      .ok ⟨directory, kind, kind = .link⟩ ::
        (Entry.visibleAmong members).map fun found => .ok (visitAt directory found) := by
  obtain ⟨kind, own, other⟩ := shown.kind
  have visited : (visit disk {} [] directory kind).run = .ok ⟨directory, kind, kind = .link⟩ := by
    simp [visit]
  refine ⟨kind, other, ?_⟩
  unfold start
  rw [Id.run_bind, own]
  dsimp only
  rw [Id.run_bind, visited]
  dsimp only
  obtain ⟨status, leads, folder⟩ := Disk.isDirectory_iff.mp shown.isDirectory
  rw [if_neg other, Id.run_bind, leads]
  dsimp only
  rw [if_pos folder]
  simp only [Id.run_bind, Id.run_pure, goThrough_shown shown.shows]

end Traversal
end BootSnapshot
