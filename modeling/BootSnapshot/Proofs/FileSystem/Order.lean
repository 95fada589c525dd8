import Mathlib.Data.List.Nodup
import BootSnapshot.FileSystem.Memory

set_option autoImplicit false

namespace BootSnapshot

/-- Two answers to the question what a directory holds: they fail alike, or they tell the same in
some order each. -/
inductive SameMembers : Except OsError Listing → Except OsError Listing → Prop
  | failed (error : OsError) : SameMembers (.error error) (.error error)
  | listed {one other : Listing} (members : one.members.Perm other.members)
    (faults : one.faults.Perm other.faults) : SameMembers (.ok one) (.ok other)

/-- Two disks that differ in the order of what directories list. -/
structure Disk.SameButOrder (one other : Disk Id) : Prop where
  canonical : ∀ path, one.canonical path = other.canonical path
  status : ∀ path, one.status path = other.status path
  ownKind : ∀ path, one.ownKind path = other.ownKind path
  read : ∀ path, one.read path = other.read path
  depthBound : one.depthBound = other.depthBound
  list : ∀ path, SameMembers (one.list path).run (other.list path).run

/-- What does not list directories is the same on both disks. -/
theorem Disk.SameButOrder.eq {one other : Disk Id} (same : one.SameButOrder other) :
    other = { one with list := other.list } := by
  obtain ⟨canonical, status, ownKind, list, read, depthBound⟩ := one
  obtain ⟨canonical', status', ownKind', list', read', depthBound'⟩ := other
  obtain rfl : canonical = canonical' := funext same.canonical
  obtain rfl : status = status' := funext same.status
  obtain rfl : ownKind = ownKind' := funext same.ownKind
  obtain rfl : read = read' := funext same.read
  obtain rfl : depthBound = depthBound' := same.depthBound
  rfl

namespace Entry

/-- What stands somewhere, without what is below it. -/
def shell : Entry → Entry
  | .directory _ => .directory []
  | entry => entry

/-- The same stands under all names. -/
def SameBelow (one other : Entry) : Prop :=
  ∀ names, (one.at? names).map shell = (other.at? names).map shell

def HasDistinctNames (entry : Entry) : Prop :=
  ∀ names members, entry.at? names = some (.directory members) → (members.map Prod.fst).Nodup

theorem at?_append (entry : Entry) (names more : List String) :
    entry.at? (names ++ more) = (entry.at? names).bind (·.at? more) := by
  induction names generalizing entry with
  | nil => rfl
  | cons name rest ih =>
    cases entry with
    | directory members =>
      simp only [List.cons_append, at?]
      cases member? name members with
      | none => rfl
      | some child => exact ih child
    | file content => rfl
    | link target => rfl

theorem at?_single (members : List (String × Entry)) (name : String) :
    (directory members).at? [name] = member? name members := by
  simp only [at?]
  cases member? name members <;> rfl

/-- What has the shell of something is the same, unless that is a directory. -/
theorem eq_of_shell {one other : Entry} (same : one.shell = other.shell)
    (plain : ∀ members, one ≠ .directory members) : other = one := by
  cases one with
  | directory members => exact absurd rfl (plain members)
  | file content => cases other <;> cases same; rfl
  | link target => cases other <;> cases same; rfl

theorem directory_of_shell {members : List (String × Entry)} {other : Entry}
    (same : (directory members).shell = other.shell) : ∃ members', other = .directory members' := by
  cases other with
  | directory members' => exact ⟨members', rfl⟩
  | file content => cases same
  | link target => cases same

namespace SameBelow

variable {one other : Entry}

theorem absent (same : one.SameBelow other) {names : List String} (held : one.at? names = none) :
    other.at? names = none := by
  have shells := same names
  rw [held] at shells
  exact Option.map_eq_none_iff.mp shells.symm

theorem present (same : one.SameBelow other) {names : List String} {entry : Entry}
    (held : one.at? names = some entry) :
    ∃ entry', other.at? names = some entry' ∧ entry.shell = entry'.shell ∧
      entry.SameBelow entry' := by
  have shells := same names
  rw [held] at shells
  obtain ⟨entry', held', shell⟩ := Option.map_eq_some_iff.mp shells.symm
  refine ⟨entry', held', shell.symm, fun more => ?_⟩
  have further := same (names ++ more)
  rw [at?_append, at?_append, held, held'] at further
  exact further

theorem directory (same : one.SameBelow other) {names : List String}
    {members : List (String × Entry)} (held : one.at? names = some (.directory members)) :
    ∃ members', other.at? names = some (.directory members') ∧
      ∀ name, (member? name members).map shell = (member? name members').map shell := by
  obtain ⟨entry', held', shells, below⟩ := same.present held
  obtain ⟨members', rfl⟩ := directory_of_shell shells
  refine ⟨members', held', fun name => ?_⟩
  rw [← at?_single, ← at?_single]
  exact below [name]

end SameBelow

section Members

variable {name : String} {members members' : List (String × Entry)}
  (shells : (member? name members).map shell = (member? name members').map shell)
include shells

theorem member?_absent (missing : member? name members = none) : member? name members' = none :=
  Option.map_eq_none_iff.mp (shells.symm.trans (congrArg (Option.map shell) missing))

theorem member?_present {entry : Entry} (held : member? name members = some entry) :
    ∃ entry', member? name members' = some entry' ∧ entry'.shell = entry.shell :=
  Option.map_eq_some_iff.mp (shells.symm.trans (congrArg (Option.map shell) held))

theorem member?_link {target : String} (held : member? name members = some (.link target)) :
    member? name members' = some (.link target) := by
  obtain ⟨entry', held', same⟩ := member?_present shells held
  rw [held', eq_of_shell same.symm fun _ => Entry.noConfusion]

theorem member?_plain {entry : Entry} (held : member? name members = some entry)
    (plain : ∀ target, entry ≠ .link target) :
    ∃ entry', member? name members' = some entry' ∧ ∀ target, entry' ≠ .link target := by
  obtain ⟨entry', held', same⟩ := member?_present shells held
  refine ⟨entry', held', ?_⟩
  rintro target rfl
  exact plain target (eq_of_shell same fun _ => Entry.noConfusion)

end Members

theorem HasDistinctNames.at {entry child : Entry} (distinct : entry.HasDistinctNames)
    {names : List String} (held : entry.at? names = some child) : child.HasDistinctNames := by
  intro more members inside
  refine distinct (names ++ more) members ?_
  rw [at?_append, held]
  exact inside

theorem mem_iff_member? {members : List (String × Entry)} (distinct : (members.map Prod.fst).Nodup)
    {name : String} {entry : Entry} :
    (name, entry) ∈ members ↔ member? name members = some entry := by
  induction members with
  | nil => simp [member?]
  | cons first rest ih =>
    obtain ⟨other, held⟩ := first
    rw [List.map_cons, List.nodup_cons] at distinct
    rw [List.mem_cons, member?]
    by_cases same : other = name
    · subst same
      have absent : (other, entry) ∉ rest := fun member =>
        distinct.1 (List.mem_map.mpr ⟨_, member, rfl⟩)
      simp [absent, eq_comm]
    · simp [same, Ne.symm same, ih distinct.2]

theorem kind_of_shell {one other : Entry} (same : one.shell = other.shell) :
    one.kind = other.kind := by
  have plain (entry : Entry) : entry.shell.kind = entry.kind := by cases entry <;> rfl
  rw [← plain one, same, plain]

theorem status_of_shell {one other : Entry} (same : one.shell = other.shell) :
    one.status = other.status := by
  have plain (entry : Entry) : entry.shell.status = entry.status := by cases entry <;> rfl
  rw [← plain one, same, plain]

theorem hasDistinctNames_directory {members : List (String × Entry)}
    (distinct : (members.map Prod.fst).Nodup)
    (below : ∀ member ∈ members, member.2.HasDistinctNames) :
    (directory members).HasDistinctNames := by
  intro names found held
  cases names with
  | nil =>
    cases held
    exact distinct
  | cons name rest =>
    rw [at?] at held
    split at held
    · rename_i child present
      exact below (name, child) ((mem_iff_member? distinct).mpr present) rest found held
    · cases held

theorem hasDistinctNames_file (content : List UInt8) : (file content).HasDistinctNames := by
  intro names found held
  cases names <;> cases held

/-- The members of one directory may change places. -/
theorem sameBelow_of_perm {members members' : List (String × Entry)}
    (distinct : (members.map Prod.fst).Nodup) (perm : members.Perm members') :
    (directory members).SameBelow (directory members') := by
  have distinct' : (members'.map Prod.fst).Nodup := (perm.map Prod.fst).nodup_iff.mp distinct
  have same (name : String) : member? name members' = member? name members := by
    refine Option.ext fun entry => ?_
    rw [← mem_iff_member? distinct, ← mem_iff_member? distinct', perm.mem_iff]
  intro names
  cases names with
  | nil => rfl
  | cons name rest => rw [at?, at?, same]

/-- What stands below the first name of a directory may change. -/
theorem sameBelow_inside {one other : Entry} (same : one.SameBelow other) (name : String)
    (rest : List (String × Entry)) :
    (directory ((name, one) :: rest)).SameBelow (directory ((name, other) :: rest)) := by
  intro names
  cases names with
  | nil => rfl
  | cons first more =>
    simp only [at?, member?]
    by_cases here : name = first
    · simp only [here, ↓reduceIte]
      exact same more
    · simp only [here, ↓reduceIte]

section SameDirectory

variable {members members' : List (String × Entry)}
  (distinct : (members.map Prod.fst).Nodup) (distinct' : (members'.map Prod.fst).Nodup)
include distinct distinct'

theorem kinds_subset
    (shells : ∀ name, (member? name members).map shell = (member? name members').map shell) :
    (members.map fun member => (member.1, member.2.kind)) ⊆
      members'.map fun member => (member.1, member.2.kind) := by
  intro shown member
  obtain ⟨⟨name, entry⟩, held, rfl⟩ := List.mem_map.mp member
  obtain ⟨entry', held', same⟩ := member?_present (shells name) ((mem_iff_member? distinct).mp held)
  refine List.mem_map.mpr ⟨(name, entry'), (mem_iff_member? distinct').mpr held', ?_⟩
  rw [kind_of_shell same]

/-- Directories with the same under all names show the same members, in some order each. -/
theorem kinds_perm
    (shells : ∀ name, (member? name members).map shell = (member? name members').map shell) :
    (members.map fun member => (member.1, member.2.kind)).Perm
      (members'.map fun member => (member.1, member.2.kind)) := by
  have single {members : List (String × Entry)} (distinct : (members.map Prod.fst).Nodup) :
      (members.map fun member => (member.1, member.2.kind)).Nodup := by
    refine List.Nodup.of_map Prod.fst ?_
    rwa [List.map_map]
  refine (List.perm_ext_iff_of_nodup (single distinct) (single distinct')).mpr fun shown => ?_
  exact ⟨fun member => kinds_subset distinct distinct' shells member,
    fun member => kinds_subset distinct' distinct (fun name => (shells name).symm) member⟩

end SameDirectory

theorem directoriesAmong_eq (members : List (String × Entry)) :
    directoriesAmong members =
      (members.map fun member => member.2.directoryCount).foldr (· + ·) 0 := by
  induction members with
  | nil => rfl
  | cons member rest ih => rw [directoriesAmong, ih, List.map_cons, List.foldr_cons]

/-- A sum over members is one over their names. -/
theorem sum_by_names {members : List (String × Entry)} (distinct : (members.map Prod.fst).Nodup)
    (count : Entry → Nat) :
    (members.map fun member => count member.2).foldr (· + ·) 0 =
      ((members.map Prod.fst).map fun name =>
        ((member? name members).map count).getD 0).foldr (· + ·) 0 := by
  rw [List.map_map]
  congr 1
  refine List.map_congr_left fun ⟨name, entry⟩ held => ?_
  simp [(mem_iff_member? distinct).mp held]

theorem directoryCount_eq : ∀ (one other : Entry), one.SameBelow other → one.HasDistinctNames →
    other.HasDistinctNames → one.directoryCount = other.directoryCount
  | .file content, other, same, _, _ => by
    rw [eq_of_shell (Option.some_inj.mp (same [])) fun _ => Entry.noConfusion]
  | .link target, other, same, _, _ => by
    rw [eq_of_shell (Option.some_inj.mp (same [])) fun _ => Entry.noConfusion]
  | .directory members, other, same, distinct, distinct' => by
    have itself : (directory members).at? [] = some (directory members) := rfl
    obtain ⟨members', held', shells⟩ := same.directory itself
    cases held'
    have names := distinct [] members rfl
    have names' := distinct' [] members' rfl
    have perm := (kinds_perm names names' shells).map Prod.fst
    rw [List.map_map, List.map_map] at perm
    rw [directoryCount, directoryCount, directoriesAmong_eq, directoriesAmong_eq,
      sum_by_names names, sum_by_names names']
    congr 1
    refine Eq.trans (congrArg (List.foldr _ 0) (List.map_congr_left fun name member => ?_))
      ((perm.map _).foldr_eq' (fun one _ other _ rest => Nat.add_left_comm other one rest) 0)
    obtain ⟨⟨_, entry⟩, held, rfl⟩ := List.mem_map.mp member
    have found := (mem_iff_member? names).mp held
    obtain ⟨entry', found', _, below⟩ := same.present ((at?_single members _).trans found)
    rw [at?_single] at found'
    rw [found, found', Option.map_some, Option.map_some, Option.getD_some, Option.getD_some]
    exact directoryCount_eq entry entry' below
      (distinct.at ((at?_single members _).trans found))
      (distinct'.at ((at?_single members' _).trans found'))
termination_by one => sizeOf one
decreasing_by
  have smaller := List.sizeOf_lt_of_mem held
  simp only [Prod.mk.sizeOf_spec] at smaller
  simp only [directory.sizeOf_spec]
  omega

end Entry

namespace FileTree

def Place.shell : Place → Place
  | .found names entry => .found names entry.shell
  | .absent directory name => .absent directory name

/-- Two trees that differ in the order of the members of directories. -/
structure SameButOrder (one other : FileTree) : Prop where
  working : one.working = other.working
  below : one.root.SameBelow other.root
  distinct : one.root.HasDistinctNames
  distinct' : other.root.HasDistinctNames

variable {one other : FileTree}

/-- A path leads to the same place in both trees, or nowhere for the same reason. -/
theorem follow_shell (same : one.SameButOrder other) (followLast : Bool) (links : Nat)
    (names parts : List String) :
    (one.follow followLast links names parts).map Place.shell =
      (other.follow followLast links names parts).map Place.shell := by
  fun_induction follow one followLast links names parts with
  | case1 links names entry held =>
    obtain ⟨entry', held', shells, _⟩ := same.below.present held
    rw [follow, held']
    simp only [Except.map, Place.shell, shells]
  | case2 links names held | case3 links names part rest held =>
    rw [follow, same.below.absent held]
  | case4 links names part rest members held here ih =>
    obtain ⟨members', held', _⟩ := same.below.directory held
    rw [follow, held']
    simp only [here, ↓reduceIte]
    exact ih
  | case5 links names rest members held here ih =>
    obtain ⟨members', held', _⟩ := same.below.directory held
    rw [follow, held']
    simp only [here, ↓reduceIte]
    exact ih
  | case6 links names part rest members held here up long =>
    obtain ⟨members', held', _⟩ := same.below.directory held
    rw [follow, held']
    simp only [here, up, long, ↓reduceIte]
  | case7 links names part rest members held here up long missing last =>
    obtain ⟨members', held', shells⟩ := same.below.directory held
    have missing' := Entry.member?_absent (shells part) missing
    rw [follow, held']
    simp only [here, up, long, missing', last, ↓reduceIte]
  | case8 links names part rest members held here up long missing last =>
    obtain ⟨members', held', shells⟩ := same.below.directory held
    have missing' := Entry.member?_absent (shells part) missing
    rw [follow, held']
    simp only [here, up, long, missing', last, ↓reduceIte]
    rfl
  | case9 links names part rest members held here up long target link last =>
    obtain ⟨members', held', shells⟩ := same.below.directory held
    have link' := Entry.member?_link (shells part) link
    rw [follow, held']
    simp only [here, up, long, link', last, ↓reduceIte]
    rfl
  | case10 names part rest members held here up long target link last =>
    obtain ⟨members', held', shells⟩ := same.below.directory held
    have link' := Entry.member?_link (shells part) link
    rw [follow, held']
    simp only [here, up, long, link', last, ↓reduceIte]
  | case11 names part rest members held here up long target link last links ih =>
    obtain ⟨members', held', shells⟩ := same.below.directory held
    have link' := Entry.member?_link (shells part) link
    rw [follow, held']
    simp only [here, up, long, link', last, ↓reduceIte]
    exact ih
  | case12 links names part rest members held here up long entry plain found ih =>
    obtain ⟨members', held', shells⟩ := same.below.directory held
    obtain ⟨entry', found', plain'⟩ := Entry.member?_plain (shells part) found plain
    rw [follow, held']
    simp only [here, up, long, found', ↓reduceIte]
    exact ih
  | case13 links names part rest entry plain held =>
    obtain ⟨entry', held', shells, _⟩ := same.below.present held
    rw [follow, held', Entry.eq_of_shell shells plain]
    cases entry with
    | directory members => exact absurd rfl (plain members)
    | file content | link target => rfl

/-- A place that a path leads to is there. -/
theorem at?_of_follow {tree : FileTree} {followLast : Bool} {links : Nat}
    {names parts found : List String} {entry : Entry}
    (leads : tree.follow followLast links names parts = .ok (.found found entry)) :
    tree.root.at? found = some entry := by
  fun_induction follow tree followLast links names parts with
  | case1 links names entry held =>
    cases leads
    exact held
  | case9 links names part rest members held here up long target link last =>
    cases leads
    rw [Entry.at?_append, held]
    simp only [Option.bind_some, Entry.at?, link]
  | case4 _ _ _ _ _ _ _ ih | case5 _ _ _ _ _ _ ih => exact ih leads
  | case11 _ _ _ _ _ _ _ _ _ _ _ _ ih | case12 _ _ _ _ _ _ _ _ _ _ _ _ ih => exact ih leads
  | _ => cases leads

theorem resolve_shell (same : one.SameButOrder other) (followLast : Bool) (path : String) :
    (one.resolve followLast path).map Place.shell =
      (other.resolve followLast path).map Place.shell := by
  unfold resolve
  rw [← same.working]
  split
  · rfl
  · split
    · rfl
    · split
      · rfl
      · exact follow_shell same followLast maxLinks _ _

theorem at?_of_resolve {tree : FileTree} {followLast : Bool} {path : String} {found : List String}
    {entry : Entry} (leads : tree.resolve followLast path = .ok (.found found entry)) :
    tree.root.at? found = some entry := by
  unfold resolve at leads
  split at leads
  · cases leads
  · split at leads
    · cases leads
    · split at leads
      · cases leads
      · exact at?_of_follow leads

/-- Two answers to where a path leads: the same error, or a place that both trees have. -/
inductive SameFound (one other : FileTree) :
    Except OsError (List String × Entry) → Except OsError (List String × Entry) → Prop
  | failed (error : OsError) : SameFound one other (.error error) (.error error)
  | found {names : List String} {entry entry' : Entry} (held : one.root.at? names = some entry)
    (held' : other.root.at? names = some entry') (shells : entry.shell = entry'.shell) :
    SameFound one other (.ok (names, entry)) (.ok (names, entry'))

/-- Trees with the same under all names answer all questions alike, but for the order of a listing.
-/
theorem find_same (same : one.SameButOrder other) (followLast : Bool) (path : String) :
    SameFound one other (one.find followLast path) (other.find followLast path) := by
  have shells := resolve_shell same followLast path
  unfold find
  cases led : one.resolve followLast path with
  | error error =>
    cases led' : other.resolve followLast path with
    | error error' =>
      rw [led, led'] at shells
      cases shells
      exact .failed error
    | ok place' =>
      rw [led, led'] at shells
      cases shells
  | ok place =>
    cases led' : other.resolve followLast path with
    | error error' =>
      rw [led, led'] at shells
      cases shells
    | ok place' =>
      rw [led, led'] at shells
      have shells : place.shell = place'.shell := Except.ok.inj shells
      cases place with
      | found names entry =>
        cases place' with
        | found names' entry' =>
          obtain ⟨rfl, entries⟩ := Place.found.inj shells
          exact .found (at?_of_resolve led) (at?_of_resolve led') entries
        | absent directory name => cases shells
      | absent directory name =>
        cases place' with
        | found names' entry' => cases shells
        | absent directory' name' => exact .failed _

/-- What is told of a place by its shell is the same in both trees. -/
theorem map_find {α : Type} (same : one.SameButOrder other) (followLast : Bool) (path : String)
    (told : List String × Entry → α)
    (plain : ∀ names entry entry', entry.shell = entry'.shell →
      told (names, entry) = told (names, entry')) :
    (one.find followLast path).map told = (other.find followLast path).map told := by
  have both := find_same same followLast path
  generalize one.find followLast path = found, other.find followLast path = found' at both ⊢
  cases both with
  | failed error => rfl
  | found held held' shells => exact congrArg Except.ok (plain _ _ _ shells)

/-- All that a disk answers is the same on both trees, but for the order of a listing. -/
theorem disk_same (same : one.SameButOrder other) : one.disk.SameButOrder other.disk where
  canonical path := map_find same true path _ fun _ _ _ _ => rfl
  status path := map_find same true path _ fun _ _ _ => Entry.status_of_shell
  ownKind path := map_find same false path _ fun _ _ _ => Entry.kind_of_shell
  read path := by
    have both := find_same same true path
    unfold disk
    dsimp only
    generalize one.find true path = found, other.find true path = found' at both ⊢
    cases both with
    | failed error => rfl
    | @found names entry entry' held held' shells =>
      cases entry <;> cases entry' <;> cases shells <;> rfl
  depthBound := congrArg (· + 1)
    (Entry.directoryCount_eq one.root other.root same.below same.distinct same.distinct')
  list path := by
    have both := find_same same true path
    unfold disk
    dsimp only [Id.run]
    generalize one.find true path = found, other.find true path = found' at both ⊢
    cases both with
    | failed error => exact .failed error
    | @found names entry entry' held held' shells =>
      cases entry with
      | directory members =>
        obtain ⟨members', held'', names⟩ := same.below.directory held
        obtain rfl := Option.some_inj.mp (held'.symm.trans held'')
        exact .listed (Entry.kinds_perm (same.distinct _ members held)
          (same.distinct' _ members' held') names) (.refl _)
      | file content | link target =>
        rw [Entry.eq_of_shell shells fun _ => Entry.noConfusion]
        exact .failed _

def singleDirectory (name : String) (members : List (String × Entry)) : FileTree where
  root := .directory [(name, .directory members)]

theorem singleDirectory_same {name : String} {members members' : List (String × Entry)}
    (names : (members.map Prod.fst).Nodup) (perm : members.Perm members')
    (below : ∀ member ∈ members, member.2.HasDistinctNames) :
    (singleDirectory name members).SameButOrder (singleDirectory name members') := by
  have distinct {members : List (String × Entry)} (names : (members.map Prod.fst).Nodup)
      (below : ∀ member ∈ members, member.2.HasDistinctNames) :
      (singleDirectory name members).root.HasDistinctNames := by
    refine Entry.hasDistinctNames_directory (List.nodup_singleton _) fun member inside => ?_
    rw [List.mem_singleton.mp inside]
    exact Entry.hasDistinctNames_directory names below
  exact {
    working := rfl
    below := Entry.sameBelow_inside (Entry.sameBelow_of_perm names perm) name []
    distinct := distinct names below
    distinct' := distinct ((perm.map Prod.fst).nodup_iff.mp names) fun member inside =>
      below member (perm.mem_iff.mpr inside) }

end FileTree
end BootSnapshot
