import BootSnapshot.Proofs.FileSystem.Traversal

set_option autoImplicit false

namespace BootSnapshot

open Text

namespace DiskPath

/-- A name after a path stands in the place of what is blank at the path's end. -/
theorem split_join {path name : String} (filled : path ≠ "") (named : IsName name.toList) :
    ∃ front tail, split '/' path = front ++ tail ∧ (∀ part ∈ tail, part = "") ∧
      split '/' (join path name) = front ++ [name] := by
  have relative : name.toList.head? ≠ some '/' :=
    fun first => named.unsplit (List.mem_of_mem_head? first)
  have chars : path.toList ≠ [] := fun empty => filled (String.toList_eq_nil_iff.mp empty)
  unfold split
  rw [toList_join, joinChars, if_neg (not_or.mpr ⟨relative, chars⟩)]
  by_cases slash : path.toList.getLast? = some '/'
  · obtain ⟨front, same⟩ := List.getLast?_eq_some_iff.mp slash
    refine ⟨(pieces '/' front).map String.ofList, [""], ?_, fun part => List.mem_singleton.mp, ?_⟩
    · rw [same, pieces_append, List.map_append]
      rfl
    · rw [if_pos slash, same, List.append_assoc, List.singleton_append, pieces_append,
        pieces_of_not_mem named.unsplit, List.map_append, List.map_singleton, String.ofList_toList]
  · refine ⟨_, [], (List.append_nil _).symm, fun _ inside => absurd inside List.not_mem_nil, ?_⟩
    rw [if_neg slash, pieces_append, pieces_of_not_mem named.unsplit, List.map_append,
      List.map_singleton, String.ofList_toList]

theorem isAbsolute_join {path name : String} (filled : path ≠ "") (named : IsName name.toList) :
    isAbsolute (join path name) = isAbsolute path := by
  have relative : name.toList.head? ≠ some '/' :=
    fun first => named.unsplit (List.mem_of_mem_head? first)
  have chars : path.toList ≠ [] := fun empty => filled (String.toList_eq_nil_iff.mp empty)
  unfold isAbsolute
  rw [toList_join, joinChars, if_neg (not_or.mpr ⟨relative, chars⟩)]
  split
  · rw [List.head?_append_of_ne_nil _ chars]
  · rw [List.head?_append_of_ne_nil _ chars]

end DiskPath

namespace FileTree

variable {tree : FileTree} {names : List String} {members : List (String × Entry)}

/-- Blank parts lead on from a directory to the same directory. -/
theorem names_of_follow_blank {links : Nat} {start parts : List String}
    (leads : tree.follow true links start parts = .ok (.found names (.directory members)))
    (blank : ∀ part ∈ parts, part = "") : names = start := by
  induction parts with
  | nil =>
    rw [follow] at leads
    split at leads
    · cases leads
      rfl
    · cases leads
  | cons part rest ih =>
    obtain ⟨here, later⟩ := List.forall_mem_cons.mp blank
    rw [follow] at leads
    split at leads
    · cases leads
    · rw [if_pos (Or.inl here)] at leads
      exact ih leads later
    · cases leads

/-- Whatever stands at the end of a path in the place of blank parts is followed from the directory
that the path leads to, with the links that are left then. -/
theorem follow_front {links : Nat} {start front tail : List String}
    (leads : tree.follow true links start (front ++ tail) = .ok (.found names (.directory members)))
    (blank : ∀ part ∈ tail, part = "") :
    ∃ left, ∀ more, tree.follow true links start (front ++ more) =
      tree.follow true left names more := by
  fun_induction follow tree true links start front with
  | case1 links start entry held | case2 links start held =>
    rw [names_of_follow_blank leads blank]
    exact ⟨links, fun _ => rfl⟩
  | case3 links start part rest held =>
    rw [List.cons_append, follow, held] at leads
    cases leads
  | case4 links start part rest members held here ih =>
    rw [List.cons_append, follow, held] at leads
    simp only [here, ↓reduceIte] at leads
    obtain ⟨left, onward⟩ := ih leads
    refine ⟨left, fun more => Eq.trans ?_ (onward more)⟩
    rw [List.cons_append, follow, held]
    simp only [here, ↓reduceIte]
  | case5 links start rest members held here ih =>
    rw [List.cons_append, follow, held] at leads
    simp only [here, ↓reduceIte] at leads
    obtain ⟨left, onward⟩ := ih leads
    refine ⟨left, fun more => Eq.trans ?_ (onward more)⟩
    rw [List.cons_append, follow, held]
    simp only [here, ↓reduceIte]
  | case6 links start part rest members held here up long =>
    rw [List.cons_append, follow, held] at leads
    simp only [here, up, long, ↓reduceIte] at leads
    cases leads
  | case7 links start part rest members held here up long missing last
  | case8 links start part rest members held here up long missing last =>
    rw [List.cons_append, follow, held] at leads
    simp only [here, up, long, missing, ↓reduceIte] at leads
    split at leads <;> cases leads
  | case9 links start part rest members held here up long target link last => cases last.2
  | case10 start part rest members held here up long target link last =>
    rw [List.cons_append, follow, held] at leads
    simp only [here, up, long, link, reduceCtorEq, and_false, ↓reduceIte] at leads
  | case11 start part rest members held here up long target link last links ih =>
    rw [List.cons_append, follow, held] at leads
    simp only [here, up, long, link, reduceCtorEq, and_false, ↓reduceIte] at leads
    rw [← List.append_assoc] at leads
    obtain ⟨left, onward⟩ := ih leads
    refine ⟨left, fun more => Eq.trans ?_ (onward more)⟩
    rw [List.cons_append, follow, held]
    simp only [here, up, long, link, reduceCtorEq, and_false, ↓reduceIte]
    rw [← List.append_assoc]
    rfl
  | case12 links start part rest members held here up long entry plain found ih =>
    rw [List.cons_append, follow, held] at leads
    simp only [here, up, long, found, ↓reduceIte] at leads
    obtain ⟨left, onward⟩ := ih leads
    refine ⟨left, fun more => Eq.trans ?_ (onward more)⟩
    rw [List.cons_append, follow, held]
    simp only [here, up, long, found, ↓reduceIte]
  | case13 links start part rest entry plain held =>
    rw [List.cons_append, follow, held] at leads
    cases entry with
    | directory members => exact absurd rfl (plain members)
    | file content | link target => cases leads

/-- Where a path leads to a directory with all links followed, it leads at least to a link if the
last one is not. -/
theorem follow_unfollowed {links : Nat} {start parts : List String}
    (leads : tree.follow true links start parts = .ok (.found names (.directory members))) :
    ∃ names' entry, tree.follow false links start parts = .ok (.found names' entry) ∧
      entry.kind ≠ .file := by
  fun_induction follow tree true links start parts with
  | case1 links start entry held =>
    cases leads
    refine ⟨names, .directory members, ?_, FileKind.noConfusion⟩
    rw [follow, held]
  | case4 links start part rest members held here ih =>
    obtain ⟨names', entry, leads', kind⟩ := ih leads
    refine ⟨names', entry, ?_, kind⟩
    rw [follow, held]
    simpa only [here, ↓reduceIte] using leads'
  | case5 links start rest members held here ih =>
    obtain ⟨names', entry, leads', kind⟩ := ih leads
    refine ⟨names', entry, ?_, kind⟩
    rw [follow, held]
    simpa only [here, ↓reduceIte] using leads'
  | case11 start part rest members held here up long target link last links ih =>
    by_cases final : rest = []
    · refine ⟨start ++ [part], .link target, ?_, FileKind.noConfusion⟩
      rw [follow, held]
      simp only [here, up, long, link, final, and_self, ↓reduceIte]
    · obtain ⟨names', entry, leads', kind⟩ := ih leads
      refine ⟨names', entry, ?_, kind⟩
      rw [follow, held]
      simp only [here, up, long, link, final, false_and, ↓reduceIte]
      exact leads'
  | case12 links start part rest members held here up long entry plain found ih =>
    obtain ⟨names', entry', leads', kind⟩ := ih leads
    refine ⟨names', entry', ?_, kind⟩
    rw [follow, held]
    simpa only [here, up, long, found, ↓reduceIte] using leads'
  | _ => cases leads

/-- What a path leads to is what its parts lead to. -/
theorem find_eq_ok_iff {followLast : Bool} {path : String} {entry : Entry} :
    tree.find followLast path = .ok (names, entry) ↔
      '\x00' ∉ path.toList ∧ path ≠ "" ∧ path.utf8ByteSize ≤ maxPathBytes ∧
        tree.follow followLast maxLinks (if DiskPath.isAbsolute path then [] else tree.working)
          (split '/' path) = .ok (.found names entry) := by
  unfold find resolve
  by_cases null : '\x00' ∈ path.toList
  · simp [null]
  · by_cases empty : path = ""
    · simp [empty]
    · by_cases long : maxPathBytes < path.utf8ByteSize
      · simp [null, empty, long]
      · simp only [null, empty, long, ↓reduceIte, not_false_eq_true, ne_eq, true_and,
          Nat.le_of_not_lt long]
        split
        · rename_i same
          rw [same]
          simp
        · rename_i same
          rw [same]
          simp
        · rename_i same
          rw [same]
          simp

/-- What a directory holds under a name is what the path with that name leads to, unless the path
cannot be followed at all. -/
theorem find_join {path name : String} {names' : List String} {inner : List (String × Entry)}
    {found : Entry} (leads : tree.find true path = .ok (names, .directory members))
    (named : DiskPath.IsName name.toList)
    (present : Entry.member? name members = some (.directory inner))
    (further : tree.find true (DiskPath.join path name) = .ok (names', found)) :
    names' = names ++ [name] ∧ found = .directory inner := by
  obtain ⟨-, filled, -, followed⟩ := find_eq_ok_iff.mp leads
  obtain ⟨-, -, -, further⟩ := find_eq_ok_iff.mp further
  obtain ⟨front, tail, whole, blank, longer⟩ := DiskPath.split_join filled named
  rw [whole] at followed
  obtain ⟨left, onward⟩ := follow_front followed blank
  rw [DiskPath.isAbsolute_join filled named, longer, onward] at further
  have held : tree.root.at? names = some (.directory members) := at?_of_follow followed
  have below : tree.root.at? (names ++ [name]) = some (.directory inner) := by
    rw [Entry.at?_append, held, Option.bind_some, Entry.at?_single, present]
  have filledName : name ≠ "" := fun empty => named.nonempty (congrArg String.toList empty)
  have here : name ≠ "." := fun point => named.not_here (congrArg String.toList point)
  have up : name ≠ ".." := fun points => named.not_up (congrArg String.toList points)
  rw [follow, held] at further
  simp only [filledName, here, up, or_self, ↓reduceIte, present] at further
  split at further
  · cases further
  · rw [follow, below] at further
    obtain ⟨same, entries⟩ := Place.found.inj (Except.ok.inj further)
    exact ⟨same.symm, entries.symm⟩

end FileTree

namespace Disk

variable {disk : Disk Id}

mutual

/-- Whether all directories of an entry that stands at a path can be listed. -/
def listsAll (disk : Disk Id) (path : String) : Entry → Bool
  | .directory members => (disk.list path).run.isOk && disk.listsAmong path members
  | _ => true

def listsAmong (disk : Disk Id) (path : String) : List (String × Entry) → Bool
  | [] => true
  | (name, entry) :: rest =>
    disk.listsAll (DiskPath.join path name) entry && disk.listsAmong path rest

end

theorem listsAmong_iff {path : String} {members : List (String × Entry)} :
    disk.listsAmong path members = true ↔
      ∀ member ∈ members, disk.listsAll (DiskPath.join path member.1) member.2 = true := by
  induction members with
  | nil => simp [listsAmong]
  | cons member rest ih =>
    obtain ⟨name, entry⟩ := member
    simp [listsAmong, ih]

/-- A bound on the levels of what a disk shows may be raised. -/
theorem Shows.mono {levels levels' : Nat} {path : String} {entry : Entry}
    (shown : disk.Shows levels path entry) (more : levels ≤ levels') :
    disk.Shows levels' path entry := by
  induction shown generalizing levels' with
  | file content => exact .file content
  | link target => exact .link target
  | directory listed below ih =>
    cases levels' with
    | zero => cases more
    | succ levels' =>
      exact .directory listed fun member inside => ih member inside (Nat.le_of_succ_le_succ more)

end Disk

namespace Entry

theorem directoryCount_le_of_mem {members : List (String × Entry)} {member : String × Entry}
    (inside : member ∈ members) : member.2.directoryCount ≤ directoriesAmong members := by
  induction members with
  | nil => cases inside
  | cons first rest ih =>
    obtain ⟨name, entry⟩ := first
    rw [directoriesAmong]
    rcases List.mem_cons.mp inside with rfl | later
    · exact Nat.le_add_right _ _
    · exact Nat.le_trans (ih later) (Nat.le_add_left _ _)

theorem mem_of_member? {name : String} {members : List (String × Entry)} {entry : Entry}
    (present : member? name members = some entry) : (name, entry) ∈ members := by
  induction members with
  | nil => cases present
  | cons first rest ih =>
    obtain ⟨other, held⟩ := first
    rw [member?] at present
    split at present
    · rename_i same
      rw [same, Option.some_inj.mp present]
      exact List.mem_cons_self
    · exact List.mem_cons_of_mem _ (ih present)

/-- What stands below an entry has no more directories than the entry. -/
theorem directoryCount_le_of_at? {entry found : Entry} {names : List String}
    (held : entry.at? names = some found) : found.directoryCount ≤ entry.directoryCount := by
  induction names generalizing entry with
  | nil => rw [Option.some_inj.mp held]
  | cons name rest ih =>
    cases entry with
    | file content | link target => cases held
    | directory members =>
      rw [at?] at held
      split at held
      · rename_i child present
        have among := directoryCount_le_of_mem (mem_of_member? present)
        rw [directoryCount]
        exact Nat.le_succ_of_le (Nat.le_trans (ih held) among)
      · cases held

end Entry

namespace FileTree

variable {tree : FileTree}

theorem list_run {path : String} {names : List String} {members : List (String × Entry)}
    (leads : tree.find true path = .ok (names, .directory members)) :
    (tree.disk.list path).run =
      .ok { members := members.map fun member => (member.1, member.2.kind) } := by
  unfold disk
  dsimp only [Id.run]
  rw [leads]

/-- The disk of a tree shows the directory that a path leads to. The induction is on the number of
directories, of which each directory has more than those in it. -/
theorem disk_shows {path : String} {names : List String} {members : List (String × Entry)}
    (leads : tree.find true path = .ok (names, .directory members))
    (well : (Entry.directory members).isWellNamed = true)
    (listable : tree.disk.listsAll path (.directory members) = true) :
    tree.disk.Shows (Entry.directory members).directoryCount path (.directory members) := by
  induction count : (Entry.directory members).directoryCount using Nat.strong_induction_on
    generalizing path names members with
  | _ count ih =>
    rw [Entry.directoryCount] at count
    rw [Entry.isWellNamed, Bool.and_eq_true, decide_eq_true_eq, Entry.areWellNamed_iff] at well
    rw [Disk.listsAll, Bool.and_eq_true, Disk.listsAmong_iff] at listable
    subst count
    apply Disk.Shows.directory (list_run leads)
    intro member inside
    obtain ⟨named, good⟩ := well.2 _ inside
    have below := listable.2 _ inside
    have fewer := Entry.directoryCount_le_of_mem inside
    obtain ⟨name, entry⟩ := member
    cases entry with
    | file content => exact .file content
    | link target => exact .link target
    | directory inner =>
      refine Disk.Shows.mono ?_ fewer
      have present := (Entry.mem_iff_member? well.1).mp inside
      have listed := below
      rw [Disk.listsAll, Bool.and_eq_true] at listed
      cases further : tree.find true (DiskPath.join path name) with
      | error error =>
        have failed := listed.1
        unfold disk at failed
        dsimp only [Id.run] at failed
        rw [further] at failed
        cases failed
      | ok place =>
        obtain ⟨names', found⟩ := place
        obtain ⟨rfl, rfl⟩ := find_join leads named present further
        exact ih _ (Nat.lt_succ_of_le fewer) further good below rfl

/-- The disk of a tree shows every directory whose names are well formed and whose directories can
all be listed: the bound of the disk on the depth of directories suffices. -/
theorem disk_showsTree {path : String} {names : List String} {members : List (String × Entry)}
    (leads : tree.find true path = .ok (names, .directory members))
    (well : (Entry.directory members).isWellNamed = true)
    (listable : tree.disk.listsAll path (.directory members) = true) :
    tree.disk.ShowsTree path members where
  kind := by
    obtain ⟨null, filled, short, followed⟩ := find_eq_ok_iff.mp leads
    obtain ⟨names', entry, unfollowed, other⟩ := follow_unfollowed followed
    refine ⟨entry.kind, ?_, other⟩
    unfold disk
    dsimp only [Id.run]
    rw [find_eq_ok_iff.mpr ⟨null, filled, short, unfollowed⟩]
    rfl
  isDirectory := by
    refine Disk.isDirectory_iff.mpr ⟨(Entry.directory members).status, ?_, rfl⟩
    unfold disk
    dsimp only [Id.run]
    rw [leads]
    rfl
  shows := by
    obtain ⟨-, -, -, followed⟩ := find_eq_ok_iff.mp leads
    refine (disk_shows leads well listable).mono ?_
    exact Nat.le_succ_of_le (Entry.directoryCount_le_of_at? (at?_of_follow followed))
  distinct := Entry.hasDistinctNames_of_isWellNamed well
  named := Entry.hasNames_of_isWellNamed well

end FileTree
end BootSnapshot
