import Mathlib
import BootSnapshot.Proofs.FileSystem.Shown

set_option autoImplicit false

namespace BootSnapshot.Scan

open DiskPath ComponentPath Traversal

/-- The last of some names ends in a point and one of some extensions, in any case of letters. -/
def EndsIn (extensions names : List String) : Prop :=
  ∃ name stem ending, names.getLast? = some name ∧ name.toList = stem ++ '.' :: ending ∧
    stem ≠ [] ∧ '.' ∉ ending ∧ Text.asciiLowercase (String.ofList ending) ∈ extensions

/-- What stands at a path is a file, or a link that leads to one. -/
inductive LeadsToFile (disk : Disk Id) (path : String) : Entry → Prop
  | file (content : List UInt8) : LeadsToFile disk path (.file content)
  | link (target : String) {status : FileStatus} (leads : (disk.status path).run = .ok status)
    (kind : status.kind = .file) : LeadsToFile disk path (.link target)

/-- What stands at a path is a link that leads nowhere. -/
inductive LeadsNowhere (disk : Disk Id) (path : String) (error : OsError) : Entry → Prop
  | link (target : String) (broken : (disk.status path).run = .error error) :
    LeadsNowhere disk path error (.link target)

def relativePath (names : List String) : String := ComponentPath.normalize ("/".intercalate names)

def brokenLink (names : List String) (error : OsError) : Skip :=
  ⟨relativePath names, "broken symbolic link: " ++ error.message⟩

variable {disk : Disk Id} {directory : String} {extensions names : List String} {entry : Entry}

theorem hasExtension_follow (directory : String) (named : ∀ name ∈ names, IsName name.toList)
    (below : names ≠ []) :
    hasExtension extensions (follow directory names) = true ↔ EndsIn extensions names := by
  obtain ⟨front, last, rfl⟩ := List.eq_nil_or_concat names |>.resolve_left below
  rw [List.concat_eq_append] at *
  have path : follow directory (front ++ [last]) = join (follow directory front) last :=
    List.foldl_concat _ _ _ _
  have name := named last (List.mem_append_right front (List.mem_singleton.mpr rfl))
  unfold hasExtension EndsIn
  rw [path, extension?_join _ name, List.getLast?_concat]
  constructor
  · intro ends
    cases found : nameExtension? last.toList with
    | none => simp [found] at ends
    | some ending =>
      rw [found, Option.map_some] at ends
      obtain ⟨stem, cut, filled, pointless⟩ := nameExtension?_eq_some_iff.mp found
      exact ⟨last, stem, ending, rfl, cut, filled, pointless, of_decide_eq_true ends⟩
  · rintro ⟨_, stem, ending, same, cut, filled, pointless, inside⟩
    obtain rfl := Option.some_inj.mp same
    rw [nameExtension?_eq_some_iff.mpr ⟨stem, cut, filled, pointless⟩, Option.map_some]
    exact decide_eq_true inside

theorem judge_visitAt (named : ∀ name ∈ names, IsName name.toList) :
    (judge disk directory extensions (.ok (visitAt directory (names, entry)))).run =
      if hasExtension extensions (follow directory names) then
        match entry with
        | .file _ => .file (relativePath names)
        | .directory _ => .nothing
        | .link _ =>
          match (disk.status (follow directory names)).run with
          | .ok status => if status.kind = .file then .file (relativePath names) else .nothing
          | .error error => .skipped (brokenLink names error)
      else .nothing := by
  have relative := relative?_follow directory named
  have yielded : yieldFile directory (follow directory names) = .file (relativePath names) := by
    rw [yieldFile, relative]
    rfl
  unfold judge
  dsimp only [visitAt]
  cases hasExtension extensions (follow directory names) with
  | false => rfl
  | true =>
    cases entry with
    | file content => simp [Entry.kind, yielded]
    | directory members => simp [Entry.kind]
    | link target =>
      simp only [Bool.not_true, Bool.false_eq_true, ↓reduceIte, Entry.kind, reduceCtorEq,
        decide_true, Id.run_bind]
      cases (disk.status (follow directory names)).run with
      | ok status =>
        dsimp only
        rw [yielded]
        rfl
      | error error =>
        dsimp only
        rw [yieldSkip, Option.bind_some, relative]
        rfl

theorem file?_judge (named : ∀ name ∈ names, IsName name.toList) (below : names ≠ [])
    {path : String} :
    (judge disk directory extensions (.ok (visitAt directory (names, entry)))).run.file? =
        some path ↔
      EndsIn extensions names ∧ LeadsToFile disk (follow directory names) entry ∧
        path = relativePath names := by
  rw [judge_visitAt named, ← hasExtension_follow directory named below]
  cases hasExtension extensions (follow directory names) with
  | false => simp [Yield.file?]
  | true =>
    rw [if_pos rfl]
    cases entry with
    | file content =>
      constructor
      · intro same
        exact ⟨rfl, .file content, (Option.some_inj.mp same).symm⟩
      · rintro ⟨-, -, rfl⟩
        rfl
    | directory members =>
      constructor
      · intro same
        cases same
      · rintro ⟨-, leads, -⟩
        cases leads
    | link target =>
      cases status : (disk.status (follow directory names)).run with
      | error error =>
        constructor
        · intro same
          cases same
        · rintro ⟨-, ⟨-⟩ | ⟨-, leads, -⟩, -⟩
          rw [status] at leads
          cases leads
      | ok status' =>
        dsimp only
        split
        · rename_i kind
          constructor
          · intro same
            exact ⟨rfl, .link target status kind, (Option.some_inj.mp same).symm⟩
          · rintro ⟨-, -, rfl⟩
            rfl
        · rename_i other
          constructor
          · intro same
            cases same
          · rintro ⟨-, ⟨-⟩ | ⟨-, leads, kind⟩, -⟩
            rw [status] at leads
            exact absurd (Except.ok.inj leads ▸ kind) other

/-- The names that lead to a link with a right extension that leads nowhere, and why. -/
def brokenLink? (disk : Disk Id) (extensions : List String) (directory : String)
    (found : List String × Entry) : Option (List String × OsError) :=
  if hasExtension extensions (follow directory found.1) then
    match found.2, (disk.status (follow directory found.1)).run with
    | .link _, .error error => some (found.1, error)
    | _, _ => none
  else none

theorem names_of_brokenLink? {found : List String × Entry} {link : List String × OsError}
    (breaks : brokenLink? disk extensions directory found = some link) : link.1 = found.1 := by
  unfold brokenLink? at breaks
  split at breaks
  · split at breaks
    · exact congrArg Prod.fst (Option.some_inj.mp breaks).symm
    · cases breaks
  · cases breaks

theorem brokenLink?_eq_some_iff (named : ∀ name ∈ names, IsName name.toList) (below : names ≠ [])
    {found : List String × OsError} :
    brokenLink? disk extensions directory (names, entry) = some found ↔
      found.1 = names ∧ EndsIn extensions names ∧
        LeadsNowhere disk (follow directory names) found.2 entry := by
  rw [← hasExtension_follow directory named below]
  unfold brokenLink?
  constructor
  · intro same
    split at same
    · rename_i ends
      split at same
      · rename_i target error kind broken
        obtain rfl : entry = .link target := kind
        obtain rfl := Option.some_inj.mp same
        exact ⟨rfl, ends, .link target broken⟩
      · cases same
    · cases same
  · rintro ⟨rfl, ends, target, broken⟩
    dsimp only
    rw [if_pos ends, broken]

theorem skip?_judge (named : ∀ name ∈ names, IsName name.toList) :
    (judge disk directory extensions (.ok (visitAt directory (names, entry)))).run.skip? =
      (brokenLink? disk extensions directory (names, entry)).map fun found =>
        brokenLink found.1 found.2 := by
  rw [judge_visitAt named, brokenLink?]
  cases hasExtension extensions (follow directory names) with
  | false => rfl
  | true =>
    rw [if_pos rfl, if_pos rfl]
    cases entry with
    | file content | directory members => rfl
    | link target =>
      cases (disk.status (follow directory names)).run with
      | error error => rfl
      | ok status =>
        dsimp only
        split <;> rfl

/-- The directory itself comes to nothing, whatever its name ends in. -/
theorem judge_directory (extensions : List String) {kind : FileKind} (other : kind ≠ .file)
    (isDirectory : (disk.isDirectory directory).run = true) :
    (judge disk directory extensions (.ok ⟨directory, kind, kind = .link⟩)).run = .nothing := by
  obtain ⟨status, leads, folder⟩ := Disk.isDirectory_iff.mp isDirectory
  unfold judge
  dsimp only
  cases hasExtension extensions directory with
  | false => rfl
  | true =>
    cases kind with
    | file => exact absurd rfl other
    | directory => rfl
    | link => simp [leads, folder]

variable {members : List (String × Entry)}

theorem findFiles_shown (shown : disk.ShowsTree directory members) (extensions : List String) :
    (findFiles disk {} extensions directory).run =
      ⟨distinctTexts ((Entry.visibleAmong members).filterMap fun found =>
          (judge disk directory extensions (.ok (visitAt directory found))).run.file?),
        ((Entry.visibleAmong members).filterMap fun found =>
          (judge disk directory extensions (.ok (visitAt directory found))).run.skip?).mergeSort
            Skip.le⟩ := by
  obtain ⟨kind, other, started⟩ := start_shown shown
  have itself := judge_directory extensions other shown.isDirectory
  unfold findFiles
  simp only [Id.run_bind, Id.run_pure, started, List.idRun_mapM, List.map_cons, itself,
    List.filterMap_cons, Yield.file?, Yield.skip?, List.map_map, List.filterMap_map]
  rfl

theorem mem_visibleAmong_iff (shown : disk.ShowsTree directory members) :
    (names, entry) ∈ Entry.visibleAmong members ↔
      (Entry.directory members).VisibleAt names entry :=
  Entry.mem_visibleBelow_iff shown.distinct

theorem isName_of_visibleAt (shown : disk.ShowsTree directory members)
    (seen : (Entry.directory members).VisibleAt names entry) :
    ∀ name ∈ names, IsName name.toList :=
  shown.named names entry seen.held

theorem mem_files_iff (shown : disk.ShowsTree directory members) {path : String} :
    path ∈ (findFiles disk {} extensions directory).run.files ↔
      ∃ names entry, (Entry.directory members).VisibleAt names entry ∧
        EndsIn extensions names ∧ LeadsToFile disk (follow directory names) entry ∧
        path = relativePath names := by
  rw [findFiles_shown shown, mem_distinctTexts, List.mem_filterMap]
  constructor
  · rintro ⟨⟨names, entry⟩, member, yields⟩
    have seen := (mem_visibleAmong_iff shown).mp member
    have named := isName_of_visibleAt shown seen
    exact ⟨names, entry, seen, (file?_judge named seen.below).mp yields⟩
  · rintro ⟨names, entry, seen, yields⟩
    have named := isName_of_visibleAt shown seen
    exact ⟨(names, entry), (mem_visibleAmong_iff shown).mpr seen,
      (file?_judge named seen.below).mpr yields⟩

/-- The names and errors of all visible links with a right extension that lead nowhere. -/
def brokenLinks (disk : Disk Id) (extensions : List String) (directory : String)
    (members : List (String × Entry)) : List (List String × OsError) :=
  (Entry.visibleAmong members).filterMap (brokenLink? disk extensions directory)

theorem nodup_brokenLinks (shown : disk.ShowsTree directory members) (extensions : List String) :
    ((brokenLinks disk extensions directory members).map Prod.fst).Nodup := by
  -- A broken link keeps the names of its visit, and no two visits have the same names.
  have visits := Entry.nodup_visibleBelow (.directory members) shown.distinct
  refine List.pairwise_map.mpr (List.pairwise_filterMap.mpr ?_)
  refine (List.pairwise_map.mp visits).imp ?_
  intro one other differ link breaks link' breaks'
  rwa [names_of_brokenLink? breaks, names_of_brokenLink? breaks']

theorem mem_brokenLinks_iff (shown : disk.ShowsTree directory members) {error : OsError} :
    (names, error) ∈ brokenLinks disk extensions directory members ↔
      ∃ entry, (Entry.directory members).VisibleAt names entry ∧
        EndsIn extensions names ∧ LeadsNowhere disk (follow directory names) error entry := by
  rw [brokenLinks, List.mem_filterMap]
  constructor
  · rintro ⟨⟨names', entry⟩, member, breaks⟩
    have seen := (mem_visibleAmong_iff shown).mp member
    have named := isName_of_visibleAt shown seen
    obtain ⟨rfl, breaks⟩ := (brokenLink?_eq_some_iff named seen.below).mp breaks
    exact ⟨entry, seen, breaks⟩
  · rintro ⟨entry, seen, breaks⟩
    have named := isName_of_visibleAt shown seen
    exact ⟨(names, entry), (mem_visibleAmong_iff shown).mpr seen,
      (brokenLink?_eq_some_iff named seen.below).mpr ⟨rfl, breaks⟩⟩

theorem skipped_perm_brokenLinks (shown : disk.ShowsTree directory members)
    (extensions : List String) :
    (findFiles disk {} extensions directory).run.skipped.Perm
      ((brokenLinks disk extensions directory members).map fun found =>
        brokenLink found.1 found.2) := by
  rw [findFiles_shown shown, brokenLinks, List.map_filterMap]
  refine (List.mergeSort_perm _ _).trans (List.Perm.of_eq ?_)
  refine List.filterMap_congr fun ⟨names, entry⟩ member => ?_
  exact skip?_judge (isName_of_visibleAt shown ((mem_visibleAmong_iff shown).mp member))

/-- A search finds exactly the visible entries that end in one of the extensions and are files or
lead to files, in the order of their paths. It skips exactly the visible links with such an ending
that lead nowhere, each once. -/
theorem findFiles_exact (shown : disk.ShowsTree directory members) (extensions : List String) :
    let found := (findFiles disk {} extensions directory).run
    let tree := Entry.directory members
    (found.files.Pairwise (· < ·) ∧
      ∀ path, path ∈ found.files ↔ ∃ names entry, tree.VisibleAt names entry ∧
        EndsIn extensions names ∧ LeadsToFile disk (follow directory names) entry ∧
        path = relativePath names) ∧
    (found.skipped.Pairwise fun a b => toLex (a.path, a.reason) ≤ toLex (b.path, b.reason)) ∧
    ∃ broken : List (List String × OsError), (broken.map Prod.fst).Nodup ∧
      (∀ names error, (names, error) ∈ broken ↔ ∃ entry, tree.VisibleAt names entry ∧
        EndsIn extensions names ∧ LeadsNowhere disk (follow directory names) error entry) ∧
      found.skipped.Perm (broken.map fun found => brokenLink found.1 found.2) := by
  intro found tree
  have result : found = _ := findFiles_shown shown extensions
  refine ⟨⟨?_, fun path => mem_files_iff shown⟩, ?_,
    brokenLinks disk extensions directory members, nodup_brokenLinks shown extensions,
    fun names error => mem_brokenLinks_iff shown, skipped_perm_brokenLinks shown extensions⟩
  · rw [result]
    exact distinctTexts_rising _
  · rw [result]
    exact Skip.le_sortsBy.pairwise _

/-- Tools in two directories, with links to a tool, to a directory and to nothing. -/
def toolMembers : List (String × Entry) := [
  ("Shell.EFI", .file [0]),
  (".Trash.efi", .file [0]),
  ("Tests", .directory [("Memory.efi", .file [0]), ("Notes.txt", .file [0])]),
  ("Alias.efi", .link "/Tools/Shell.EFI"),
  ("Around.efi", .link "/Tools"),
  ("Lost.efi", .link "/Gone.efi")]

def toolTree : FileTree := .singleDirectory "Tools" toolMembers

theorem toolTree_shown : toolTree.disk.ShowsTree "/Tools" toolMembers :=
  FileTree.disk_showsTree (by cbv) (by decide) (by cbv)

/-- The search goes into the inner directory, and skips the link that leads nowhere. -/
theorem toolTree_searched :
    toolTree.disk.ShowsTree "/Tools" toolMembers ∧
    "Tests/Memory.efi" ∈ (findFiles toolTree.disk {} ["efi"] "/Tools").run.files ∧
    "Alias.efi" ∈ (findFiles toolTree.disk {} ["efi"] "/Tools").run.files ∧
    ⟨"Lost.efi", "broken symbolic link: No such file or directory (os error 2)"⟩ ∈
      (findFiles toolTree.disk {} ["efi"] "/Tools").run.skipped := by
  obtain ⟨⟨-, files⟩, -, broken, -, links, skipped⟩ := findFiles_exact toolTree_shown ["efi"]
  have inner : (Entry.directory toolMembers).VisibleAt ["Tests", "Memory.efi"] (.file [0]) :=
    ⟨by decide, rfl, by decide⟩
  have innerPath : relativePath ["Tests", "Memory.efi"] = "Tests/Memory.efi" := by
    rw [relativePath, normalize_of_plain (by decide)]
    decide
  have linked : (Entry.directory toolMembers).VisibleAt ["Alias.efi"] (.link "/Tools/Shell.EFI") :=
    ⟨by decide, rfl, by decide⟩
  have linkedPath : relativePath ["Alias.efi"] = "Alias.efi" := by
    rw [relativePath, normalize_of_plain (by decide)]
    decide
  have linkedStatus : (toolTree.disk.status (follow "/Tools" ["Alias.efi"])).run =
      .ok ⟨.file, 1⟩ := by cbv
  have lost : (Entry.directory toolMembers).VisibleAt ["Lost.efi"] (.link "/Gone.efi") :=
    ⟨by decide, rfl, by decide⟩
  have lostSkip : brokenLink ["Lost.efi"] .notFound =
      ⟨"Lost.efi", "broken symbolic link: No such file or directory (os error 2)"⟩ := by
    rw [brokenLink, relativePath, normalize_of_plain (by decide)]
    cbv
  have lostStatus : (toolTree.disk.status (follow "/Tools" ["Lost.efi"])).run =
      .error .notFound := by cbv
  have ends (names : List String) (stem : List Char) (filled : stem ≠ [])
      (last : names.getLast? = some (String.ofList (stem ++ ['.', 'e', 'f', 'i']))) :
      EndsIn ["efi"] names :=
    ⟨_, stem, ['e', 'f', 'i'], last, String.toList_ofList, filled, by decide, by decide⟩
  refine ⟨toolTree_shown, (files _).mpr ?_, (files _).mpr ?_, skipped.mem_iff.mpr ?_⟩
  · exact ⟨_, _, inner, ends _ "Memory".toList (by decide) (by decide), .file _, innerPath.symm⟩
  · exact ⟨_, _, linked, ends _ "Alias".toList (by decide) (by decide),
      .link _ linkedStatus rfl, linkedPath.symm⟩
  · have breaks := (links _ _).mpr ⟨_, lost, ends _ "Lost".toList (by decide) (by decide),
      .link _ lostStatus⟩
    exact List.mem_map.mpr ⟨_, breaks, lostSkip⟩

end BootSnapshot.Scan
