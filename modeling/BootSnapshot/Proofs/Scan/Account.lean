import BootSnapshot.Proofs.Scan.Bundle
import BootSnapshot.Proofs.Scan.Report

set_option autoImplicit false

namespace BootSnapshot

namespace Skip

/-- A skip stands at a directory or somewhere in it. -/
def LiesIn (skip : Skip) (directory : String) : Prop :=
  skip.path = directory ∨ ∃ rest, skip.path = directory ++ "/" ++ rest

theorem liesIn_within (skip : Skip) (directory : String) :
    (skip.within directory).LiesIn directory := by
  unfold within
  split
  · exact Or.inl rfl
  · exact Or.inr ⟨skip.path, rfl⟩

theorem within_eq {skip : Skip} (filled : skip.path ≠ "")
    (relative : skip.path.toList.head? ≠ some '/') (directory : String) :
    skip.within directory = ⟨directory ++ "/" ++ skip.path, skip.reason⟩ :=
  if_neg (not_or.mpr ⟨filled, relative⟩)

theorem head?_of_liesIn {skip : Skip} {category : Category}
    (inside : skip.LiesIn category.directory) :
    skip.path.toList.head? = category.directory.toList.head? := by
  rcases inside with same | ⟨rest, same⟩
  · rw [same]
  · have filled : category.directory.toList ≠ [] := by cases category <;> decide
    rw [same, String.toList_append, String.toList_append, List.append_assoc,
      List.head?_append_of_ne_nil _ filled]

/-- A skip lies in the directory of one category only. -/
theorem LiesIn.category_eq {skip : Skip} {one other : Category}
    (first : skip.LiesIn one.directory) (second : skip.LiesIn other.directory) : one = other := by
  have same := (head?_of_liesIn first).symm.trans (head?_of_liesIn second)
  revert same
  cases one <;> cases other <;> decide

end Skip

namespace Scan

variable {disk : Disk Id} {followLinks : Bool} {root : String} {category : Category}

theorem Finds.category_eq {entry : Component} (finds : Finds disk followLinks root category entry) :
    entry.category = category := by
  cases finds with
  | file plain found => rfl
  | kext found holds => exact (inspect_ok holds).1

theorem Skips.liesIn {skip : Skip} (skips : Skips disk followLinks root category skip) :
    skip.LiesIn category.directory := by
  cases skips with
  | file plain met => exact Skip.liesIn_within _ _
  | search met => exact Skip.liesIn_within _ _
  | bundle found fails => exact Skip.liesIn_within _ _

/-- The requested categories whose directories exist below a root, in the order of reports. -/
def presentOf (disk : Disk Id) (options : ScanOptions) (root : String) : List Category :=
  (Category.all.filter (· ∈ options.categories)).filter fun category =>
    (disk.isDirectory (categoryPath root category)).run

/-- A report tells what is found in the directories of the requested categories. -/
structure Accounts (disk : Disk Id) (options : ScanOptions) (report : ScanReport) : Prop where
  /-- Entries come in order, no two of a category with one path. -/
  rising : report.entries.Pairwise fun a b =>
    toLex (a.category.rank, a.relativePath) < toLex (b.category.rank, b.relativePath)
  scanned : report.scanned = presentOf disk options report.root
  /-- A requested category without a directory has no entry and one skip, which says so. -/
  missing : ∀ category ∈ options.categories, category ∉ report.scanned →
    (∀ entry ∈ report.entries, entry.category ≠ category) ∧
    report.skipped.count (missingDirectory category) = 1 ∧
    ∀ skip ∈ report.skipped, skip.LiesIn category.directory → skip = missingDirectory category
  files : ∀ category ∈ report.scanned, category ≠ .kext →
    ∀ path ∈ (filesOf disk options.followLinks report.root category).files,
      { relativePath := path, category := category } ∈ report.entries
  /-- A bundle has an entry if it holds a kext, else a skip. -/
  bundles : .kext ∈ report.scanned → ∀ candidate ∈ (bundlesOf disk report.root).candidates,
    (∃ kext, (inspect disk candidate).run = .ok kext ∧
      ∃ told ∈ report.entries, told.category = .kext ∧
        told.relativePath = candidate.relativePath) ∨
    ∃ skip, (inspect disk candidate).run = .error skip ∧
      ⟨"Kexts/" ++ candidate.relativePath, skip.reason⟩ ∈ report.skipped
  nothing_else : ∀ entry ∈ report.entries, ∃ category ∈ report.scanned,
    Finds disk options.followLinks report.root category entry
  skipped_sorted : report.skipped.Pairwise fun a b =>
    toLex (a.path, a.reason) ≤ toLex (b.path, b.reason)
  skipped_inside : ∀ skip ∈ report.skipped, ∃ category ∈ options.categories,
    skip.LiesIn category.directory

/-- The results of the jobs of a scan, in the order of their tickets. -/
def resultsOf (disk : Disk Id) (options : ScanOptions) (root : String) : List JobResult :=
  (runJobs disk options.followLinks options.schedule 0
    ((presentOf disk options root).map (firstJob root))).run.mergeSort JobResult.le

def missingOf (disk : Disk Id) (options : ScanOptions) (root : String) : List Category :=
  (Category.all.filter (· ∈ options.categories)).filter (· ∉ presentOf disk options root)

variable {options : ScanOptions}

theorem mem_all (category : Category) : category ∈ Category.all := by
  cases category <;> decide

theorem requested_of_present (present : category ∈ presentOf disk options root) :
    category ∈ options.categories := by
  have requested := (List.mem_filter.mp present).1
  exact of_decide_eq_true (List.mem_filter.mp requested).2

theorem mem_missingOf_iff :
    category ∈ missingOf disk options root ↔
      category ∈ options.categories ∧ category ∉ presentOf disk options root := by
  simp [missingOf, mem_all, and_comm]

theorem nodup_missingOf : (missingOf disk options root).Nodup := by
  have all : Category.all.Nodup := by decide
  exact (all.filter _).filter _

/-- What is read off the results comes from the categories that are present. -/
theorem mem_resultsOf_iff {β : Type} {read : JobResult → List β} {item : β} :
    item ∈ (resultsOf disk options root).flatMap read ↔
      ∃ category ∈ presentOf disk options root,
        item ∈ ((firstJob root category).results disk options.followLinks).flatMap read := by
  have jobs := gathered_jobs disk options.followLinks options.schedule
    ((presentOf disk options root).map (firstJob root)) read
  refine jobs.mem_iff.trans ?_
  rw [List.flatMap_map, List.mem_flatMap]

theorem mem_entries_resultsOf {entry : Component} :
    entry ∈ (resultsOf disk options root).flatMap JobResult.entries ↔
      ∃ category ∈ presentOf disk options root,
        Finds disk options.followLinks root category entry :=
  mem_resultsOf_iff.trans
    (exists_congr fun _ => and_congr_right fun _ => mem_entries_firstJob)

theorem mem_skipped_resultsOf {skip : Skip} :
    skip ∈ (resultsOf disk options root).flatMap JobResult.skipped ↔
      ∃ category ∈ presentOf disk options root,
        Skips disk options.followLinks root category skip :=
  mem_resultsOf_iff.trans
    (exists_congr fun _ => and_congr_right fun _ => mem_skipped_firstJob)

def reportOf (disk : Disk Id) (options : ScanOptions) (root : String) : ScanReport :=
  assemble root (presentOf disk options root) (missingOf disk options root)
    (resultsOf disk options root)

/-- Components count as the same entry where sorting cannot tell them apart. -/
theorem sameEntry_iff (a b : Component) : sameEntry a b = true ↔
    toLex (a.category.rank, a.relativePath) = toLex (b.category.rank, b.relativePath) := by
  simp [sameEntry, rank_injective.eq_iff]

theorem finds_of_mem_entries {entry : Component}
    (member : entry ∈ (reportOf disk options root).entries) :
    ∃ category ∈ presentOf disk options root,
      Finds disk options.followLinks root category entry := by
  have kept := (withoutRepeats_sublist _ _).subset member
  exact mem_entries_resultsOf.mp (List.mem_mergeSort.mp kept)

/-- What is found is told, at least by an entry with its category and path. -/
theorem exists_entry_of_finds (present : category ∈ presentOf disk options root)
    {entry : Component} (finds : Finds disk options.followLinks root category entry) :
    ∃ told ∈ (reportOf disk options root).entries,
      told.category = category ∧ told.relativePath = entry.relativePath := by
  have member := mem_entries_resultsOf.mpr ⟨category, present, finds⟩
  obtain ⟨told, stays, same⟩ := exists_mem_withoutRepeats sameEntry_iff
    (List.mem_mergeSort.mpr member)
  obtain ⟨ranks, paths⟩ := Prod.mk.inj (toLex.injective same)
  exact ⟨told, stays, (rank_injective ranks).trans finds.category_eq, paths⟩

theorem mem_skipped_reportOf {skip : Skip} :
    skip ∈ (reportOf disk options root).skipped ↔
      (∃ category ∈ missingOf disk options root, skip = missingDirectory category) ∨
      ∃ category ∈ presentOf disk options root,
        Skips disk options.followLinks root category skip := by
  rw [← mem_skipped_resultsOf]
  refine List.mem_mergeSort.trans (List.mem_append.trans (or_congr_left ?_))
  rw [List.mem_map]
  exact exists_congr fun _ => and_congr_right fun _ => eq_comm

theorem liesIn_missingDirectory (category : Category) :
    (missingDirectory category).LiesIn category.directory :=
  Or.inl rfl

theorem missingDirectory_injective : Function.Injective missingDirectory := by
  intro one other same
  exact (liesIn_missingDirectory one).category_eq (same ▸ liesIn_missingDirectory other)

theorem count_missingDirectory (missing : category ∈ missingOf disk options root) :
    (reportOf disk options root).skipped.count (missingDirectory category) = 1 := by
  have absent : missingDirectory category ∉
      (resultsOf disk options root).flatMap JobResult.skipped := by
    rw [mem_skipped_resultsOf]
    rintro ⟨other, present, skips⟩
    have same := (liesIn_missingDirectory category).category_eq skips.liesIn
    exact (mem_missingOf_iff.mp missing).2 (same ▸ present)
  have single : ((missingOf disk options root).map missingDirectory).Nodup :=
    nodup_missingOf.map missingDirectory_injective
  have sorted : (reportOf disk options root).skipped.Perm
      ((missingOf disk options root).map missingDirectory ++
        (resultsOf disk options root).flatMap JobResult.skipped) := List.mergeSort_perm _ _
  rw [sorted.count_eq, List.count_append, List.count_eq_zero.mpr absent,
    List.count_eq_one_of_mem single (List.mem_map_of_mem missing)]

theorem accounts_reportOf (disk : Disk Id) (options : ScanOptions) (root : String) :
    Accounts disk options (reportOf disk options root) where
  rising := withoutRepeats_rising sameEntry_iff (entryLe_sortsBy.pairwise _)
  scanned := rfl
  missing category requested absent := by
    have missing := mem_missingOf_iff.mpr ⟨requested, absent⟩
    refine ⟨fun entry member same => ?_, count_missingDirectory missing,
      fun skip member inside => ?_⟩
    · obtain ⟨other, present, finds⟩ := finds_of_mem_entries member
      exact absent (finds.category_eq.symm.trans same ▸ present)
    · rcases mem_skipped_reportOf.mp member with ⟨other, -, rfl⟩ | ⟨other, present, skips⟩
      · rw [(liesIn_missingDirectory other).category_eq inside]
      · exact absurd (skips.liesIn.category_eq inside ▸ present) absent
  files category present plain path found := by
    obtain ⟨told, stays, same, paths⟩ := exists_entry_of_finds present (.file plain found)
    obtain ⟨other, -, finds⟩ := finds_of_mem_entries stays
    cases finds with
    | file plain' found' =>
      dsimp only at same paths
      rw [← same, ← paths]
      exact stays
    | kext found' holds => exact absurd ((inspect_ok holds).1.symm.trans same).symm plain
  bundles present candidate found := by
    cases inspected : (inspect disk candidate).run with
    | ok kext =>
      obtain ⟨told, stays, same, paths⟩ := exists_entry_of_finds present (.kext found inspected)
      exact Or.inl ⟨kext, rfl, told, stays, same, paths.trans (inspect_ok inspected).2⟩
    | error skip =>
      have path := inspect_error inspected
      obtain ⟨filled, relative⟩ := relativePath_of_found found
      have told := Skip.within_eq (path ▸ filled) (path ▸ relative) Category.kext.directory
      have member := mem_skipped_reportOf.mpr (Or.inr ⟨.kext, present, .bundle found inspected⟩)
      rw [told, path] at member
      exact Or.inr ⟨skip, rfl, member⟩
  nothing_else entry member := finds_of_mem_entries member
  skipped_sorted := Skip.le_sortsBy.pairwise _
  skipped_inside skip member := by
    rcases mem_skipped_reportOf.mp member with ⟨category, missing, rfl⟩ | ⟨category, present, skips⟩
    · exact ⟨category, (mem_missingOf_iff.mp missing).1, liesIn_missingDirectory category⟩
    · exact ⟨category, requested_of_present present, skips.liesIn⟩

theorem checkRoot_accessible {disk : Disk Id} {root place : String}
    (accessible : (disk.canonical root).run = .ok place)
    (folder : (disk.isDirectory place).run = true) {listing : Listing}
    (listed : (disk.list place).run = .ok listing) : (checkRoot disk root).run = .ok place := by
  unfold checkRoot
  simp only [Id.run_bind, accessible, folder, Bool.not_true, Bool.false_eq_true, ↓reduceIte, listed]
  rfl

end Scan

/-- A scan of a directory that can be listed ends in a report, unless it is cancelled. The report
accounts for all that is found in the directories of the requested categories, however many work on
the scan and whichever job ends first. -/
theorem scan_accounts_for_all (disk : Disk Id) (options : ScanOptions) (root place : String)
    (listing : Listing) (accessible : (disk.canonical root).run = .ok place)
    (folder : (disk.isDirectory place).run = true) (listed : (disk.list place).run = .ok listing)
    (going : options.isCancelled = false) :
    ∃ report, (scan disk options root).run = .ok report ∧
      report.root = (Scan.resolveRoot disk place).run ∧ Scan.Accounts disk options report := by
  refine ⟨Scan.reportOf disk options (Scan.resolveRoot disk place).run, ?_, rfl,
    Scan.accounts_reportOf disk options _⟩
  rw [Scan.scan_run, Scan.checkRoot_accessible accessible folder listed, going]
  exact if_neg Bool.false_ne_true

namespace Scan

def bareBundle : FileTree where
  root := .directory [
    ("ACPI", .directory tables),
    ("Kexts", .directory [("Lilu.KEXT", .directory [])])]

/-- The categories may be requested in any order and twice. The bundle is told as a skip. -/
theorem bareBundle_accounted_for :
    let options : ScanOptions := { categories := [.tool, .kext, .acpi, .tool] }
    ∃ report, (scan bareBundle.disk options "/").run = .ok report ∧
      report.scanned = [.acpi, .kext] ∧
      report.skipped.count (missingDirectory .tool) = 1 ∧
      ⟨"Kexts/Lilu.KEXT", "no Info.plist found"⟩ ∈ report.skipped := by
  intro options
  obtain ⟨report, ended, place, accounts⟩ := scan_accounts_for_all bareBundle.disk options "/" "/"
    { members := [("ACPI", .directory), ("Kexts", .directory)] } (by cbv) (by cbv) (by cbv) rfl
  have root : report.root = "/" := place.trans (by cbv)
  have scanned : report.scanned = [.acpi, .kext] := by
    rw [accounts.scanned, root]
    cbv
  have absent := accounts.missing .tool (by decide) (by rw [scanned]; decide)
  have candidate : ⟨"/Kexts/Lilu.KEXT", "Lilu.KEXT", 1⟩ ∈
      (bundlesOf bareBundle.disk report.root).candidates := by
    have names : bundleNames bareBundle.disk "/Kexts" = ["Lilu.KEXT"] := by cbv
    have directory : categoryPath "/" .kext = "/Kexts" := by decide
    rw [root, bundlesOf, directory]
    refine (candidates_perm _ _).mem_iff.mpr (List.mem_append_left _ ?_)
    rw [outerBundles_lilu names]
    exact List.mem_cons_self
  have inspected : (inspect bareBundle.disk ⟨"/Kexts/Lilu.KEXT", "Lilu.KEXT", 1⟩).run =
      .error ⟨"Lilu.KEXT", "no Info.plist found"⟩ := by cbv
  rcases accounts.bundles (by rw [scanned]; decide) _ candidate with
    ⟨kext, holds, -⟩ | ⟨skip, fails, member⟩
  · rw [inspected] at holds
    cases holds
  · rw [inspected] at fails
    obtain rfl := Except.error.inj fails
    exact ⟨report, ended, scanned, absent.2.1, member⟩

end Scan
end BootSnapshot
