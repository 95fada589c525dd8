import Mathlib
import BootSnapshot.Proofs.FileSystem.DiskPath
import BootSnapshot.Proofs.FileSystem.Listing
import BootSnapshot.Proofs.Scan.Order

set_option autoImplicit false

namespace BootSnapshot.Scan

open DiskPath

/-- A name that is not hidden and ends in a point and the extension of bundles, in any case. -/
def NamesBundle (name : String) : Prop :=
  name.toList.head? ≠ some '.' ∧ ∃ stem ending, name.toList = stem ++ '.' :: ending ∧
    stem ≠ [] ∧ ending.map Char.toLower = bundleExtension

theorem isVisibleBundleName_iff {name : String} (named : IsName name.toList) :
    isVisibleBundleName name = true ↔ NamesBundle name := by
  unfold isVisibleBundleName isBundleName NamesBundle
  rw [lastName?_of_isName named, Option.bind_some, Bool.and_eq_true, decide_eq_true_eq]
  refine and_congr_right fun _ => ?_
  constructor
  · intro ends
    split at ends
    · rename_i ending found
      obtain ⟨stem, cut, filled, -⟩ := nameExtension?_eq_some_iff.mp found
      exact ⟨stem, ending, cut, filled, of_decide_eq_true ends⟩
    · cases ends
  · rintro ⟨stem, ending, cut, filled, lower⟩
    have pointless : '.' ∉ ending := by
      intro inside
      have small := List.mem_map_of_mem (f := Char.toLower) inside
      rw [lower] at small
      revert small
      decide
    rw [nameExtension?_eq_some_iff.mpr ⟨stem, cut, filled, pointless⟩]
    exact decide_eq_true lower

theorem plain_of_toLower {c : Char} (small : c.toLower = 'k') :
    Text.Canonical.Plain c ∧ ¬ ComponentPath.Slash c ∧ c ≠ '.' := by
  refine ⟨?_, ?_, ?_⟩
  · unfold Char.toLower at small
    split at small
    · rename_i upper
      exact Nat.lt_of_le_of_lt (UInt32.le_iff_toNat_le.mp upper.2) (by decide)
    · rw [small]
      decide
  · rintro (rfl | rfl) <;> cases small
  · rintro rfl
    cases small

/-- The name of a bundle is not lost in a normal spelling. -/
theorem partsOf_of_isVisibleBundleName {name : String} (visible : isVisibleBundleName name = true) :
    ComponentPath.partsOf name ≠ [] := by
  unfold isVisibleBundleName isBundleName at visible
  have ends := (Bool.and_eq_true_iff.mp visible).2
  split at ends
  · rename_i ending found
    obtain ⟨last, named, extension⟩ := Option.bind_eq_some_iff.mp found
    obtain ⟨stem, rfl, -, -⟩ := nameExtension?_eq_some_iff.mp extension
    have first : 'k' ∈ ending.map Char.toLower := by
      rw [of_decide_eq_true ends]
      exact List.mem_cons_self
    obtain ⟨c, inside, small⟩ := List.mem_map.mp first
    obtain ⟨plain, apart, point⟩ := plain_of_toLower small
    have member : c ∈ name.toList :=
      mem_of_lastName? named (List.mem_append_right _ (List.mem_cons_of_mem _ inside))
    exact ComponentPath.partsOf_ne_nil member plain apart point
  · cases ends

/-- The names of the bundles that a directory lists, directories or links to such. A directory that
cannot be listed has none. -/
def bundleNames (disk : Disk Id) (directory : String) : List String :=
  match (disk.list directory).run with
  | .ok listing => (listing.members.map Prod.fst).filter fun name =>
      isVisibleBundleName name && (disk.isDirectory (DiskPath.join directory name)).run
  | .error _ => []

/-- The bundles in a directory, `front` being its path from that of the kexts. -/
def bundlesIn (disk : Disk Id) (directory front : String) (depth : Nat) : List BundleCandidate :=
  (bundleNames disk directory).map fun name =>
    ⟨DiskPath.join directory name, ComponentPath.normalize (front ++ "/" ++ name), depth⟩

/-- The skips of what a directory does not tell: of the directory itself if it cannot be listed, and
else one for each name that is missing. `front` is the path from the directory of the kexts. -/
def unlistable (disk : Disk Id) (directory front : String) : List Skip :=
  match (disk.list directory).run with
  | .ok listing => listing.faults.map fun error => ⟨front, error.message⟩
  | .error error => [⟨if front = "" then directory else front, error.message⟩]

def hasPlugIns (disk : Disk Id) (candidate : BundleCandidate) : Bool :=
  (disk.isDirectory candidate.plugIns).run

/-- The path of the plug-ins of a bundle from the directory of the kexts. -/
def plugInsFront (candidate : BundleCandidate) : String :=
  candidate.relativePath ++ "/" ++ plugInsPath

/-- The skip of a bundle whose plug-ins have plug-ins. -/
def tooDeep (candidate : BundleCandidate) : Skip :=
  ⟨plugInsFront candidate, "bundles nested deeper than " ++ Decimal.natText maxBundleDepth ++
    " levels"⟩

theorem candidatesAmong_eq {disk : Disk Id} {directory : String}
    {listing : Listing} (listed : (disk.list directory).run = .ok listing)
    (front : String) (depth : Nat) :
    (candidatesAmong disk directory front depth (listing.members.map Prod.fst)).run =
      bundlesIn disk directory front depth := by
  unfold candidatesAmong bundlesIn bundleNames
  rw [idRun_filterM, listed, List.filter_map, List.filter_filter]
  congr 1
  exact List.filter_congr fun name _ => Bool.and_comm _ _

/-- What a search finds at its last level. -/
theorem discoverFrom_zero (disk : Disk Id) (depth : Nat) (directory front : String) :
    (discoverFrom disk 0 depth directory front).run =
      ⟨bundlesIn disk directory front depth,
        unlistable disk directory front ++
          (((bundlesIn disk directory front depth).filter (hasPlugIns disk)).filter fun candidate =>
            (holdsBundles disk candidate.plugIns).run).map tooDeep⟩ := by
  unfold discoverFrom
  rw [Id.run_bind]
  cases listed : (disk.list directory).run with
  | error error => simp [bundlesIn, bundleNames, unlistable, listed]
  | ok listing =>
    simp only [Id.run_bind, candidatesAmong_eq listed, idRun_filterM, Id.run_pure, unlistable,
      listed]
    rfl

/-- What a search finds when it goes on into the plug-ins, the last bundle's first. -/
theorem discoverFrom_succ (disk : Disk Id) (levels depth : Nat) (directory front : String) :
    (discoverFrom disk (levels + 1) depth directory front).run =
      ⟨bundlesIn disk directory front depth ++
          ((bundlesIn disk directory front depth).filter (hasPlugIns disk)).reverse.flatMap
            fun candidate => (discoverFrom disk levels (depth + 1) candidate.plugIns
              (plugInsFront candidate)).run.candidates,
        unlistable disk directory front ++
          ((bundlesIn disk directory front depth).filter (hasPlugIns disk)).reverse.flatMap
            fun candidate => (discoverFrom disk levels (depth + 1) candidate.plugIns
              (plugInsFront candidate)).run.skipped⟩ := by
  conv_lhs => unfold discoverFrom
  rw [Id.run_bind]
  cases listed : (disk.list directory).run with
  | error error => simp [bundlesIn, bundleNames, unlistable, listed]
  | ok listing =>
    simp only [Id.run_bind, candidatesAmong_eq listed, idRun_filterM, Id.run_pure, unlistable,
      listed, List.idRun_mapM, BundleDiscovery.foldl_append, List.flatMap_map]
    rfl

/-- The directories that a search lists, the outer one first. -/
def listedFrom (disk : Disk Id) : (levels depth : Nat) → (directory front : String) → List String
  | levels, depth, directory, front =>
    directory :: match levels with
      | 0 => ((bundlesIn disk directory front depth).filter (hasPlugIns disk)).map (·.plugIns)
      | levels + 1 =>
        ((bundlesIn disk directory front depth).filter (hasPlugIns disk)).reverse.flatMap
          fun candidate => listedFrom disk levels (depth + 1) candidate.plugIns
            (plugInsFront candidate)

theorem lists_candidatesAmong {disk : Disk Id} {directory : String}
    {listing : Listing} (listed : (disk.list directory).run = .ok listing)
    (front : String) (depth : Nat) :
    Lists (candidatesAmong disk.recording directory front depth (listing.members.map Prod.fst))
      (bundlesIn disk directory front depth) [] := by
  rw [← candidatesAmong_eq listed, candidatesAmong, candidatesAmong, idRun_filterM]
  exact Lists.filterM_quiet
    (fun candidate : BundleCandidate => disk.lists_isDirectory candidate.path) _

theorem lists_hasPlugIns (disk : Disk Id) (candidates : List BundleCandidate) :
    Lists (candidates.filterM fun candidate => disk.recording.isDirectory candidate.plugIns)
      (candidates.filter (hasPlugIns disk)) [] :=
  Lists.filterM_quiet (fun candidate => disk.lists_isDirectory candidate.plugIns) candidates

theorem lists_holdsBundles (disk : Disk Id) (directory : String) :
    Lists (holdsBundles disk.recording directory) (holdsBundles disk directory).run
      [directory] := by
  unfold holdsBundles
  rw [Id.run_bind, ← List.append_nil [directory]]
  refine (disk.lists_list directory).bind ?_
  cases (disk.list directory).run with
  | ok members => exact Lists.pure _
  | error error => exact Lists.pure _

/-- A search finds the same on a disk that keeps a record, and these are the directories that it
lists. What it asks about paths leaves no record. -/
theorem lists_discoverFrom (disk : Disk Id) (levels depth : Nat) (directory front : String) :
    Lists (discoverFrom disk.recording levels depth directory front)
      (discoverFrom disk levels depth directory front).run
      (listedFrom disk levels depth directory front) := by
  induction levels generalizing depth directory front with
  | zero =>
    rw [discoverFrom_zero]
    unfold discoverFrom listedFrom
    refine (disk.lists_list directory).bind ?_
    cases listed : (disk.list directory).run with
    | error error =>
      simp only [bundlesIn, bundleNames, unlistable, listed]
      exact Lists.pure _
    | ok listing =>
      simp only [unlistable, listed]
      refine (lists_candidatesAmong listed front depth).bind ?_
      refine (lists_hasPlugIns disk _).bind ?_
      have last := (Lists.filterM
        (fun candidate : BundleCandidate => lists_holdsBundles disk candidate.plugIns)
        ((bundlesIn disk directory front depth).filter (hasPlugIns disk))).bind_pure fun found =>
          (⟨bundlesIn disk directory front depth,
            (listing.faults.map fun error => ⟨front, error.message⟩) ++ found.map tooDeep⟩ :
              BundleDiscovery)
      rw [← List.map_eq_flatMap] at last
      exact last
  | succ levels ih =>
    have value := discoverFrom_succ disk levels depth directory front
    generalize (discoverFrom disk (levels + 1) depth directory front).run = found at value ⊢
    unfold discoverFrom listedFrom
    subst value
    refine (disk.lists_list directory).bind ?_
    cases listed : (disk.list directory).run with
    | error error =>
      simp only [bundlesIn, bundleNames, unlistable, listed]
      exact Lists.pure _
    | ok listing =>
      simp only [unlistable, listed]
      refine (lists_candidatesAmong listed front depth).bind ?_
      refine (lists_hasPlugIns disk _).bind ?_
      have inner := (Lists.mapM (fun candidate : BundleCandidate => ih (depth + 1) candidate.plugIns
        (plugInsFront candidate)) ((bundlesIn disk directory front depth).filter
          (hasPlugIns disk)).reverse).bind_pure fun found =>
            found.foldl BundleDiscovery.append ⟨bundlesIn disk directory front depth,
              listing.faults.map fun error => ⟨front, error.message⟩⟩
      rw [BundleDiscovery.foldl_append, List.flatMap_map, List.flatMap_map] at inner
      exact inner

def outerBundles (disk : Disk Id) (kexts : String) : List BundleCandidate :=
  (bundleNames disk kexts).map fun name =>
    ⟨DiskPath.join kexts name, ComponentPath.normalize name, 1⟩

def hosts (disk : Disk Id) (kexts : String) : List BundleCandidate :=
  (outerBundles disk kexts).filter (hasPlugIns disk)

def innerBundles (disk : Disk Id) (host : BundleCandidate) : List BundleCandidate :=
  (bundleNames disk host.plugIns).map fun name =>
    ⟨DiskPath.join host.plugIns name, ComponentPath.normalize (plugInsFront host ++ "/" ++ name), 2⟩

/-- The plug-ins of a bundle in whose own place for plug-ins there are names of bundles. -/
def innerHosts (disk : Disk Id) (host : BundleCandidate) : List BundleCandidate :=
  ((innerBundles disk host).filter (hasPlugIns disk)).filter fun candidate =>
    (holdsBundles disk candidate.plugIns).run

theorem bundlesIn_outer (disk : Disk Id) (kexts : String) :
    bundlesIn disk kexts "" 1 = outerBundles disk kexts := by
  refine List.map_congr_left fun name _ => ?_
  have path : ComponentPath.normalize ("" ++ "/" ++ name) = ComponentPath.normalize name := by
    rw [ComponentPath.normalize_eq_iff, ComponentPath.partsOf_join]
    rfl
  rw [path]

/-- What a search finds before it is put in order. -/
theorem discoverFrom_outer (disk : Disk Id) (kexts : String) :
    (discoverFrom disk (maxBundleDepth - 1) 1 kexts "").run =
      ⟨outerBundles disk kexts ++ (hosts disk kexts).reverse.flatMap (innerBundles disk),
        unlistable disk kexts "" ++ (hosts disk kexts).reverse.flatMap fun host =>
          unlistable disk host.plugIns (plugInsFront host) ++
            (innerHosts disk host).map tooDeep⟩ := by
  have levels : maxBundleDepth - 1 = 0 + 1 := rfl
  rw [levels, discoverFrom_succ, bundlesIn_outer]
  simp only [discoverFrom_zero]
  rfl

theorem candidates_sortsBy :
    SortsBy (fun a b : BundleCandidate => decide (a.relativePath ≤ b.relativePath))
      BundleCandidate.relativePath :=
  fun _ _ => decide_eq_true_iff

theorem candidates_perm (disk : Disk Id) (kexts : String) :
    (discoverBundles disk kexts).run.candidates.Perm
      (outerBundles disk kexts ++ (hosts disk kexts).flatMap (innerBundles disk)) := by
  have sorted : (discoverBundles disk kexts).run.candidates.Perm
      (discoverFrom disk (maxBundleDepth - 1) 1 kexts "").run.candidates := List.mergeSort_perm _ _
  rw [discoverFrom_outer] at sorted
  exact sorted.trans (((List.reverse_perm _).flatMap_right _).append_left _)

theorem skipped_perm (disk : Disk Id) (kexts : String) :
    (discoverBundles disk kexts).run.skipped.Perm
      (unlistable disk kexts "" ++ (hosts disk kexts).flatMap fun host =>
        unlistable disk host.plugIns (plugInsFront host) ++
          (innerHosts disk host).map tooDeep) := by
  have sorted : (discoverBundles disk kexts).run.skipped.Perm
      (discoverFrom disk (maxBundleDepth - 1) 1 kexts "").run.skipped := List.mergeSort_perm _ _
  rw [discoverFrom_outer] at sorted
  exact sorted.trans (((List.reverse_perm _).flatMap_right _).append_left _)

/-- A search lists the directory of the kexts, and once for each bundle that it finds the directory
of its plug-ins. -/
theorem listedFrom_perm (disk : Disk Id) (kexts : String) :
    (listedFrom disk (maxBundleDepth - 1) 1 kexts "").Perm
      (kexts :: ((discoverBundles disk kexts).run.candidates.filter (hasPlugIns disk)).map
        (·.plugIns)) := by
  have found := ((candidates_perm disk kexts).filter (hasPlugIns disk)).map (·.plugIns)
  rw [List.filter_append, List.filter_flatMap, List.map_append, List.map_flatMap] at found
  refine List.Perm.trans ?_ (found.symm.cons kexts)
  have levels : maxBundleDepth - 1 = 0 + 1 := rfl
  rw [levels, listedFrom, bundlesIn_outer]
  refine List.Perm.cons kexts (((List.reverse_perm _).flatMap_right _).trans ?_)
  exact (List.map_append_flatMap_perm _ _ _).symm

/-- A directory's bundles are those of its members that are not hidden, have the extension of
bundles, and are directories or lead to one. -/
theorem mem_bundleNames {disk : Disk Id} {directory : String} {listing : Listing}
    (listed : (disk.list directory).run = .ok listing)
    (named : ∀ member ∈ listing.members, IsName member.1.toList) (name : String) :
    name ∈ bundleNames disk directory ↔ name ∈ listing.members.map Prod.fst ∧ NamesBundle name ∧
      (disk.isDirectory (DiskPath.join directory name)).run = true := by
  unfold bundleNames
  rw [listed, List.mem_filter, Bool.and_eq_true]
  refine and_congr_right fun member => and_congr_left fun _ => ?_
  obtain ⟨held, inside, rfl⟩ := List.mem_map.mp member
  exact isVisibleBundleName_iff (named held inside)

theorem isVisibleBundleName_of_mem {disk : Disk Id} {directory name : String}
    (member : name ∈ bundleNames disk directory) : isVisibleBundleName name = true := by
  unfold bundleNames at member
  split at member
  · exact (Bool.and_eq_true_iff.mp (List.mem_filter.mp member).2).1
  · cases member

/-- The path of a bundle that is found is neither empty nor absolute. -/
theorem relativePath_of_found {disk : Disk Id} {kexts : String} {candidate : BundleCandidate}
    (found : candidate ∈ (discoverBundles disk kexts).run.candidates) :
    candidate.relativePath ≠ "" ∧ candidate.relativePath.toList.head? ≠ some '/' := by
  have spelled : ∃ path, candidate.relativePath = ComponentPath.normalize path ∧
      ComponentPath.partsOf path ≠ [] := by
    rcases List.mem_append.mp ((candidates_perm disk kexts).mem_iff.mp found) with outer | inner
    · obtain ⟨name, member, rfl⟩ := List.mem_map.mp outer
      exact ⟨name, rfl, partsOf_of_isVisibleBundleName (isVisibleBundleName_of_mem member)⟩
    · obtain ⟨host, -, plugIn⟩ := List.mem_flatMap.mp inner
      obtain ⟨name, member, rfl⟩ := List.mem_map.mp plugIn
      have parts := partsOf_of_isVisibleBundleName (isVisibleBundleName_of_mem member)
      refine ⟨_, rfl, ?_⟩
      rw [ComponentPath.partsOf_join]
      exact List.append_ne_nil_of_right_ne_nil _ parts
  obtain ⟨path, same, filled⟩ := spelled
  rw [same, Ne, ComponentPath.normalize_eq_empty_iff]
  exact ⟨filled, ComponentPath.head?_normalize path⟩

/-- A directory with one bundle. -/
theorem outerBundles_lilu {disk : Disk Id} (names : bundleNames disk "/Kexts" = ["Lilu.KEXT"]) :
    outerBundles disk "/Kexts" = [⟨"/Kexts/Lilu.KEXT", "Lilu.KEXT", 1⟩] := by
  have plain : ComponentPath.normalize "Lilu.KEXT" = "Lilu.KEXT" := by
    rw [ComponentPath.normalize_of_plain (by decide)]
    decide
  rw [outerBundles, names, List.map_cons, plain]
  rfl

end BootSnapshot.Scan
