import Mathlib
import BootSnapshot.Proofs.Scan.Results

set_option autoImplicit false

namespace BootSnapshot

variable {one other : Disk Id}

namespace Scan

def site (component : Component) : Category × String :=
  (component.category, component.relativePath)

def sameSite (one other : Category × String) : Bool := one.1 = other.1 && one.2 = other.2

theorem rank_injective : Function.Injective Category.rank := by
  rintro (_ | _ | _ | _) (_ | _ | _ | _) same <;> first | rfl | cases same

theorem entryLe_sortsBy : SortsBy entryLe fun component =>
    toLex (component.category.rank, component.relativePath) := by
  intro a b
  rw [Prod.Lex.toLex_le_toLex]
  simp [entryLe]

/-- All entries keep their places when entries under one path change theirs. -/
theorem sites_eq {entries entries' : List Component} (perm : entries.Perm entries') :
    (withoutRepeats sameEntry (entries.mergeSort entryLe)).map site =
      (withoutRepeats sameEntry (entries'.mergeSort entryLe)).map site := by
  have told (a b : Component) : sameEntry a b = sameSite (site a) (site b) := rfl
  rw [map_withoutRepeats told, map_withoutRepeats told]
  congr 1
  have injective : Function.Injective
      fun site : Category × String => toLex (site.1.rank, site.2) := by
    intro one other same
    have parts := Prod.mk.inj (toLex.injective same)
    exact Prod.ext (rank_injective parts.1) parts.2
  refine List.map_injective_iff.mpr injective ?_
  rw [List.map_map, List.map_map]
  exact entryLe_sortsBy.keys_eq perm

/-- Where all entries under one path are the same, sorting tells nothing of their order. -/
theorem entries_eq {entries entries' : List Component} (perm : entries.Perm entries')
    (single : ∀ a ∈ entries, ∀ b ∈ entries, site a = site b → a = b) :
    entries.mergeSort entryLe = entries'.mergeSort entryLe := by
  refine entryLe_sortsBy.mergeSort_eq perm fun a inA b inB same => single a inA b inB ?_
  have parts := Prod.mk.inj (toLex.injective same)
  exact Prod.ext (rank_injective parts.1) parts.2

/-- Bundles with one path in the directory of the kexts hold the same kext, as far as they hold
any. -/
def OneKextPerPath (disk : Disk Id) (root : String) : Prop :=
  ∀ one ∈ (discoverBundles disk (categoryPath root .kext)).run.candidates,
  ∀ other ∈ (discoverBundles disk (categoryPath root .kext)).run.candidates,
  one.relativePath = other.relativePath →
  ∀ kext kext', (inspect disk one).run = .ok kext → (inspect disk other).run = .ok kext' →
    kext = kext'

theorem scan_run (disk : Disk Id) (options : ScanOptions) (root : String) :
    (scan disk options root).run =
      match (checkRoot disk root).run with
      | .error error => .error error
      | .ok place =>
        if options.isCancelled then .error .cancelled
        else
          let root := (resolveRoot disk place).run
          let requested := Category.all.filter (· ∈ options.categories)
          let present := requested.filter fun category =>
            (disk.isDirectory (categoryPath root category)).run
          .ok (assemble root present (requested.filter (· ∉ present))
            ((runJobs disk options.followLinks options.schedule 0
              (present.map (firstJob root))).run.mergeSort JobResult.le)) := by
  unfold scan
  simp only [Id.run_bind]
  cases (checkRoot disk root).run with
  | error error => rfl
  | ok place =>
    dsimp only
    split
    · rfl
    · simp only [Id.run_bind, idRun_filterM]
      rfl

theorem checkRoot_eq (same : one.SameButOrder other) (root : String) :
    (checkRoot other root).run = (checkRoot one root).run := by
  unfold checkRoot
  simp only [Id.run_bind, ← same.canonical, isDirectory_eq same]
  cases (one.canonical root).run with
  | error error => rfl
  | ok place =>
    simp only [Id.run_bind]
    split
    · rfl
    · simp only [Id.run_bind]
      have listed := same.list place
      generalize (one.list place).run = held, (other.list place).run = held' at listed ⊢
      cases listed with
      | failed error => rfl
      | listed => rfl

theorem resolveRoot_eq (same : one.SameButOrder other) : resolveRoot other = resolveRoot one := by
  rw [same.eq]
  rfl

/-- A component of the files of a category is told by its path. A kext is told by its path unless
another bundle has the same. -/
theorem single_entries {disk : Disk Id} {root : String} (single : OneKextPerPath disk root)
    {followLinks : Bool} {present : List Category} {a b : Component}
    (inA : a ∈ (present.map (firstJob root)).flatMap fun job =>
      (job.results disk followLinks).flatMap JobResult.entries)
    (inB : b ∈ (present.map (firstJob root)).flatMap fun job =>
      (job.results disk followLinks).flatMap JobResult.entries)
    (same : site a = site b) : a = b := by
  obtain ⟨sameCategory, samePath⟩ := Prod.mk.inj same
  rw [List.flatMap_map, List.mem_flatMap] at inA inB
  obtain ⟨_, _, heldA⟩ := inA
  obtain ⟨_, _, heldB⟩ := inB
  rcases mem_entries_firstJob.mp heldA with ⟨plainA, foundA⟩ | ⟨foundA, holdsA⟩ <;>
    rcases mem_entries_firstJob.mp heldB with ⟨plainB, foundB⟩ | ⟨foundB, holdsB⟩
  · dsimp only at sameCategory samePath
    rw [sameCategory, samePath]
  · exact absurd (sameCategory.trans (inspect_ok holdsB).1) plainA
  · exact absurd (sameCategory.symm.trans (inspect_ok holdsA).1) plainB
  · refine single _ foundA _ foundB ?_ a b holdsA holdsB
    rw [← (inspect_ok holdsA).2, ← (inspect_ok holdsB).2]
    exact samePath

/-- Reports that differ at most in which of two bundles with one path is told. -/
structure SameButClashes (disk : Disk Id) (report report' : ScanReport) : Prop where
  root : report.root = report'.root
  scanned : report.scanned = report'.scanned
  skipped : report.skipped = report'.skipped
  sites : report.entries.map site = report'.entries.map site
  whole : OneKextPerPath disk report.root → report = report'

theorem assemble_same (same : one.SameButOrder other) (followLinks : Bool)
    (schedule schedule' : Schedule) (root : String) (present missing : List Category) :
    SameButClashes one
      (assemble root present missing ((runJobs one followLinks schedule 0
        (present.map (firstJob root))).run.mergeSort JobResult.le))
      (assemble root present missing ((runJobs other followLinks schedule' 0
        (present.map (firstJob root))).run.mergeSort JobResult.le)) := by
  have entries := gathered_perm same followLinks schedule schedule' (present.map (firstJob root))
    JobResult.entries fun _ _ => by cases ‹Except Skip Component› <;> rfl
  have skipped := gathered_perm same followLinks schedule schedule' (present.map (firstJob root))
    JobResult.skipped fun _ _ => by cases ‹Except Skip Component› <;> rfl
  have skips := Skip.mergeSort_eq (skipped.append_left (missing.map missingDirectory))
  refine ⟨rfl, rfl, skips, sites_eq entries, fun single => ?_⟩
  have jobs := gathered_jobs one followLinks schedule (present.map (firstJob root))
    JobResult.entries
  have sorted := entries_eq entries fun a inA b inB =>
    single_entries single (jobs.mem_iff.mp inA) (jobs.mem_iff.mp inB)
  unfold assemble
  rw [skips, sorted]

end Scan

/-- Whatever order directories list their members in, however many work on a scan and whichever
job ends first: a scan fails alike, or its report tells the same directory, categories, skips and
paths, and the same report altogether unless two bundles with one path hold different kexts. -/
theorem scan_of_reordered {one other : Disk Id} (same : one.SameButOrder other)
    (options : ScanOptions) (schedule : Scan.Schedule) (root : String) :
    match (scan one options root).run,
      (scan other { options with schedule := schedule } root).run with
    | .error error, .error error' => error = error'
    | .ok report, .ok report' => Scan.SameButClashes one report report'
    | _, _ => False := by
  rw [Scan.scan_run, Scan.scan_run, Scan.checkRoot_eq same, Scan.resolveRoot_eq same,
    Scan.isDirectory_eq same]
  cases (Scan.checkRoot one root).run with
  | error error => rfl
  | ok place =>
    cases options.isCancelled with
    | true => rfl
    | false => exact Scan.assemble_same same _ _ _ _ _ _

namespace Scan

def tables : List (String × Entry) := [("SSDT-EC.aml", .file [0]), ("SSDT-PLUG.aml", .file [])]

/-- Two tables are reported alike, in whichever order their directory lists them. -/
theorem tables_reported_alike :
    let one := (FileTree.singleDirectory "ACPI" tables).disk
    let other := (FileTree.singleDirectory "ACPI" tables.reverse).disk
    one.SameButOrder other ∧
      (scan one {} "/").run = (scan other { schedule := .inOrder 2 } "/").run := by
  have same : (FileTree.singleDirectory "ACPI" tables).disk.SameButOrder
      (FileTree.singleDirectory "ACPI" tables.reverse).disk := by
    refine FileTree.disk_same
      (FileTree.singleDirectory_same (by decide) (List.reverse_perm _).symm fun member inside => ?_)
    rcases List.mem_pair.mp inside with rfl | rfl
    · exact Entry.hasDistinctNames_file _
    · exact Entry.hasDistinctNames_file _
  have reports := scan_of_reordered same {} (.inOrder 2) "/"
  have root : (checkRoot (FileTree.singleDirectory "ACPI" tables).disk "/").run = .ok "/" := by cbv
  have place : (resolveRoot (FileTree.singleDirectory "ACPI" tables).disk "/").run = "/" := by cbv
  have bundles : (discoverBundles (FileTree.singleDirectory "ACPI" tables).disk
      "/Kexts").run.candidates = [] := by cbv
  refine ⟨same, ?_⟩
  rw [scan_run, scan_run, checkRoot_eq same, resolveRoot_eq same, root] at reports ⊢
  simp only [Bool.false_eq_true, ↓reduceIte, place] at reports ⊢
  refine congrArg Except.ok (reports.whole fun candidate found => ?_)
  change candidate ∈ (discoverBundles (FileTree.singleDirectory "ACPI" tables).disk
    "/Kexts").run.candidates at found
  rw [bundles] at found
  cases found

/-- A bundle in the directory of the kexts that has no plug-ins and holds a kext. -/
structure HoldsKext (disk : Disk Id) (directory name path : String) (kext : Component) : Prop where
  visible : isVisibleBundleName name = true
  spelled : ComponentPath.normalize ("/" ++ name) = path
  isDirectory : (disk.isDirectory (DiskPath.join directory name)).run = true
  simple :
    (disk.isDirectory (BundleCandidate.plugIns ⟨DiskPath.join directory name, path, 1⟩)).run = false
  inspected : (inspect disk ⟨DiskPath.join directory name, path, 1⟩).run = .ok kext

variable {disk : Disk Id} {directory path one other : String} {kext kext' : Component}
  (holds : HoldsKext disk directory one path kext)
  (holds' : HoldsKext disk directory other path kext')
  (listed : (disk.list directory).run =
    .ok { members := [(one, .directory), (other, .directory)] })
include holds holds' listed

theorem discoverBundles_clash :
    (discoverBundles disk directory).run =
      ⟨[⟨DiskPath.join directory one, path, 1⟩, ⟨DiskPath.join directory other, path, 1⟩], []⟩ := by
  have found : (candidatesAmong disk directory "" 1 [one, other]).run =
      [⟨DiskPath.join directory one, path, 1⟩, ⟨DiskPath.join directory other, path, 1⟩] := by
    unfold candidatesAmong
    rw [idRun_filterM]
    simp [holds.visible, holds'.visible, holds.spelled, holds'.spelled, holds.isDirectory,
      holds'.isDirectory]
  have outer : (discoverFrom disk (maxBundleDepth - 1) 1 directory "").run =
      ⟨[⟨DiskPath.join directory one, path, 1⟩, ⟨DiskPath.join directory other, path, 1⟩], []⟩ := by
    change (discoverFrom disk 1 1 directory "").run = _
    unfold discoverFrom
    simp only [Id.run_bind, listed, List.map_cons, List.map_nil, found, idRun_filterM,
      List.filter_cons, holds.simple, holds'.simple]
    rfl
  unfold discoverBundles
  simp only [Id.run_bind, outer, Id.run_pure, List.mergeSort_nil]
  rw [List.mergeSort_of_pairwise]
  simp

/-- Of two bundles with one path the kext of the one that is listed first is reported. -/
theorem entries_clash (followLinks : Bool) (schedule : Schedule) (root : String)
    (place : directory = categoryPath root .kext) (missing : List Category) :
    (assemble root [.kext] missing ((runJobs disk followLinks schedule 0
      ([.kext].map (firstJob root))).run.mergeSort JobResult.le)).entries = [kext] := by
  have queue : [.kext].map (firstJob root) = [.bundles directory] := by rw [place]; rfl
  have found : ((Job.bundles directory).results disk followLinks).flatMap JobResult.entries =
      [kext, kext'] := by
    rw [Job.results, discoverBundles_clash holds holds' listed]
    simp [holds.inspected, holds'.inspected, JobResult.entries, List.zipIdx]
  have same : sameEntry kext kext' = true := by
    have shown := inspect_ok holds.inspected
    have shown' := inspect_ok holds'.inspected
    simp [sameEntry, shown, shown']
  have sorted : [kext, kext'].mergeSort entryLe = [kext, kext'] := by
    refine List.mergeSort_of_pairwise (List.pairwise_pair.mpr ?_)
    simp only [sameEntry, Bool.and_eq_true, decide_eq_true_eq] at same
    simp [entryLe, same]
  unfold assemble
  rw [queue, sorted_bundles, found, sorted, withoutRepeats, if_pos same, withoutRepeats]

omit holds holds' listed

/-- Kexts are the same on disks that differ in order. -/
theorem HoldsKext.transfer {disk' : Disk Id} (holds : HoldsKext disk directory one path kext)
    (same : disk.SameButOrder disk') : HoldsKext disk' directory one path kext where
  visible := holds.visible
  spelled := holds.spelled
  isDirectory := by rw [isDirectory_eq same]; exact holds.isDirectory
  simple := by rw [isDirectory_eq same]; exact holds.simple
  inspected := by rw [inspect_eq same]; exact holds.inspected

/-- What a bundle without an executable holds. -/
theorem inspect_plain {candidate : BundleCandidate} {place identifier : String}
    {bytes : List UInt8} {libraries : List String}
    (descriptor : (descriptorPath? disk candidate.path).run = some place)
    (content : (disk.read (DiskPath.join candidate.path place)).run = .ok bytes)
    (parsed : Descriptor.read candidate.relativePath place bytes =
      .ok ⟨identifier, none, libraries⟩) :
    (inspect disk candidate).run = .ok {
      relativePath := candidate.relativePath
      category := .kext
      infoPath := some place
      bundleIdentifier := some identifier
      libraries := libraries } := by
  unfold inspect readBundle
  simp only [Id.run_bind, descriptor, content, parsed]
  rfl

def plainDescriptor : List UInt8 :=
  "<dict><key>CFBundleIdentifier</key><string>a</string></dict>".toUTF8.toList

/-- A bundle with its descriptor among its contents, under a name in composed form. -/
def composedBundle : String × Entry :=
  ("\u00e9.kext", .directory [("Contents", .directory [("Info.plist", .file plainDescriptor)])])

/-- A bundle with its descriptor beside its contents, under the same name in decomposed form. -/
def decomposedBundle : String × Entry :=
  ("e\u0301.kext", .directory [("Info.plist", .file plainDescriptor)])

def composedFirst : FileTree := .singleDirectory "Kexts" [composedBundle, decomposedBundle]

def decomposedFirst : FileTree := .singleDirectory "Kexts" [decomposedBundle, composedBundle]

/-- The kext of either bundle. -/
def plainKext (infoPath : String) : Component where
  relativePath := "\u00e9.kext"
  category := .kext
  infoPath := some infoPath
  bundleIdentifier := some "a"

deriving instance DecidableEq for Descriptor

theorem plainDescriptor_read : ∀ place ∈ ["Contents/Info.plist", "Info.plist"],
    Descriptor.read "\u00e9.kext" place plainDescriptor = .ok ⟨"a", none, []⟩ := by
  decide +kernel

theorem composedBundle_holds :
    HoldsKext composedFirst.disk "/Kexts" "\u00e9.kext" "\u00e9.kext"
      (plainKext "Contents/Info.plist") where
  visible := by decide +kernel
  spelled := by decide +kernel
  isDirectory := by cbv
  simple := by cbv
  inspected := by
    have place : (descriptorPath? composedFirst.disk "/Kexts/\u00e9.kext").run =
        some "Contents/Info.plist" := by cbv
    have content : (composedFirst.disk.read "/Kexts/\u00e9.kext/Contents/Info.plist").run =
        .ok plainDescriptor := by cbv
    exact inspect_plain place content (plainDescriptor_read _ List.mem_cons_self)

theorem decomposedBundle_holds :
    HoldsKext composedFirst.disk "/Kexts" "e\u0301.kext" "\u00e9.kext"
      (plainKext "Info.plist") where
  visible := by decide +kernel
  spelled := by decide +kernel
  isDirectory := by cbv
  simple := by cbv
  inspected := by
    have place : (descriptorPath? composedFirst.disk "/Kexts/e\u0301.kext").run =
        some "Info.plist" := by cbv
    have content : (composedFirst.disk.read "/Kexts/e\u0301.kext/Info.plist").run =
        .ok plainDescriptor := by cbv
    exact inspect_plain place content
      (plainDescriptor_read _ (List.mem_cons_of_mem _ List.mem_cons_self))

theorem composedFirst_same : composedFirst.SameButOrder decomposedFirst := by
  refine FileTree.singleDirectory_same (by decide) (List.Perm.swap _ _ _) fun bundle inside => ?_
  have descriptor : (Entry.directory [("Info.plist", .file plainDescriptor)]).HasDistinctNames := by
    refine Entry.hasDistinctNames_directory (List.nodup_singleton _) fun member inside => ?_
    rw [List.mem_singleton.mp inside]
    exact Entry.hasDistinctNames_file _
  rcases List.mem_pair.mp inside with rfl | rfl
  · refine Entry.hasDistinctNames_directory (List.nodup_singleton _) fun member inside => ?_
    rw [List.mem_singleton.mp inside]
    exact descriptor
  · exact descriptor

/-- The entries of a scan of either directory of kexts. -/
theorem entries_of_composed {tree : FileTree} (same : composedFirst.disk.SameButOrder tree.disk)
    (schedule : Schedule) {one other : String} {kext kext' : Component}
    (holds : HoldsKext tree.disk "/Kexts" one "\u00e9.kext" kext)
    (holds' : HoldsKext tree.disk "/Kexts" other "\u00e9.kext" kext')
    (listed : (tree.disk.list "/Kexts").run =
      .ok { members := [(one, .directory), (other, .directory)] }) :
    ((scan tree.disk { schedule := schedule } "/").run.map ScanReport.entries) = .ok [kext] := by
  have root : (checkRoot composedFirst.disk "/").run = .ok "/" := by cbv
  have place : (resolveRoot composedFirst.disk "/").run = "/" := by cbv
  have present : ((Category.all.filter (· ∈ Category.all)).filter fun category =>
      (composedFirst.disk.isDirectory (categoryPath "/" category)).run) = [.kext] := by cbv
  rw [scan_run, checkRoot_eq same, resolveRoot_eq same, isDirectory_eq same, root]
  simp only [Bool.false_eq_true, ↓reduceIte, place, present]
  exact congrArg Except.ok (entries_clash holds holds' listed false schedule "/" rfl _)

/-- Two trees with the same files and directories, whose scans report different kexts whichever
schedules they follow. -/
theorem clash_tells_order :
    composedFirst.SameButOrder decomposedFirst ∧ ∀ schedule schedule' : Schedule,
      (scan composedFirst.disk { schedule := schedule } "/").run ≠
        (scan decomposedFirst.disk { schedule := schedule' } "/").run := by
  refine ⟨composedFirst_same, fun schedule schedule' same => ?_⟩
  have itself : composedFirst.SameButOrder composedFirst :=
    ⟨rfl, fun _ => rfl, composedFirst_same.distinct, composedFirst_same.distinct⟩
  have swapped := FileTree.disk_same composedFirst_same
  have first := entries_of_composed (FileTree.disk_same itself) schedule composedBundle_holds
    decomposedBundle_holds (by cbv)
  have second := entries_of_composed swapped schedule' (decomposedBundle_holds.transfer swapped)
    (composedBundle_holds.transfer swapped) (by cbv)
  rw [same, second] at first
  revert first
  decide

end Scan
end BootSnapshot
