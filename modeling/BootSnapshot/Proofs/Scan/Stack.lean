import Mathlib.Logic.Hydra
import BootSnapshot.Proofs.Scan.Bundle

set_option autoImplicit false

namespace BootSnapshot.Scan

open DiskPath Relation

/-- A directory that is still to be listed, with its path from that of the kexts and the depth of
the bundles in it. -/
structure Frame where
  directory : String
  front : String
  depth : Nat

/-- A search with a stack. The frame that was pushed last comes first. -/
structure Walk where
  stack : List Frame
  found : BundleDiscovery

namespace Walk

def push (walk : Walk) (frame : Frame) : Walk := { walk with stack := frame :: walk.stack }

def add (walk : Walk) (candidate : BundleCandidate) : Walk :=
  { walk with found := ⟨walk.found.candidates ++ [candidate], walk.found.skipped⟩ }

def skip (walk : Walk) (skip : Skip) : Walk :=
  { walk with found := ⟨walk.found.candidates, walk.found.skipped ++ [skip]⟩ }

end Walk

def Frame.inside (candidate : BundleCandidate) : Frame :=
  ⟨candidate.plugIns, plugInsFront candidate, candidate.depth + 1⟩

/-- Takes in a bundle. Its plug-ins are to be listed too, unless they lie too deep. -/
def takeIn (disk : Disk Id) (walk : Walk) (candidate : BundleCandidate) : Walk :=
  let noticed :=
    if (disk.isDirectory candidate.plugIns).run then
      if candidate.depth < maxBundleDepth then walk.push (.inside candidate)
      else if (holdsBundles disk candidate.plugIns).run then walk.skip (tooDeep candidate)
      else walk
    else walk
  noticed.add candidate

def lookAt (disk : Disk Id) (frame : Frame) (walk : Walk) (name : String) : Walk :=
  let path := DiskPath.join frame.directory name
  if ! isVisibleBundleName name then walk
  else if ! (disk.isDirectory path).run then walk
  else takeIn disk walk ⟨path, ComponentPath.normalize (frame.front ++ "/" ++ name), frame.depth⟩

/-- Lists the directory of a frame and looks at all names in it. -/
def visitFrame (disk : Disk Id) (walk : Walk) (frame : Frame) : Walk :=
  match (disk.list frame.directory).run with
  | .error error =>
    walk.skip ⟨if frame.front = "" then frame.directory else frame.front, error.message⟩
  | .ok listing =>
    let told := listing.faults.foldl (fun walk error => walk.skip ⟨frame.front, error.message⟩) walk
    (listing.members.map Prod.fst).foldl (lookAt disk frame) told

def framesOf (disk : Disk Id) (candidate : BundleCandidate) : List Frame :=
  if hasPlugIns disk candidate ∧ candidate.depth < maxBundleDepth then [.inside candidate] else []

def skipsOf (disk : Disk Id) (candidate : BundleCandidate) : List Skip :=
  if hasPlugIns disk candidate ∧ ¬ candidate.depth < maxBundleDepth ∧
      (holdsBundles disk candidate.plugIns).run then [tooDeep candidate]
  else []

theorem takeIn_eq (disk : Disk Id) (walk : Walk) (candidate : BundleCandidate) :
    takeIn disk walk candidate =
      ⟨framesOf disk candidate ++ walk.stack, ⟨walk.found.candidates ++ [candidate],
        walk.found.skipped ++ skipsOf disk candidate⟩⟩ := by
  unfold takeIn framesOf skipsOf hasPlugIns
  cases (disk.isDirectory candidate.plugIns).run with
  | false => simp [Walk.add]
  | true =>
    by_cases inner : candidate.depth < maxBundleDepth
    · simp [inner, Walk.add, Walk.push]
    · cases (holdsBundles disk candidate.plugIns).run <;> simp [inner, Walk.add, Walk.skip]

theorem foldl_takeIn (disk : Disk Id) (candidates : List BundleCandidate) (walk : Walk) :
    candidates.foldl (takeIn disk) walk =
      ⟨candidates.reverse.flatMap (framesOf disk) ++ walk.stack,
        ⟨walk.found.candidates ++ candidates,
          walk.found.skipped ++ candidates.flatMap (skipsOf disk)⟩⟩ := by
  induction candidates generalizing walk with
  | nil => simp
  | cons candidate rest ih =>
    rw [List.foldl_cons, ih, takeIn_eq]
    simp

theorem foldl_lookAt (disk : Disk Id) (frame : Frame) (names : List String) (walk : Walk) :
    names.foldl (lookAt disk frame) walk =
      ((names.filter fun name => isVisibleBundleName name &&
          (disk.isDirectory (DiskPath.join frame.directory name)).run).map fun name =>
        (⟨DiskPath.join frame.directory name,
          ComponentPath.normalize (frame.front ++ "/" ++ name), frame.depth⟩ :
            BundleCandidate)).foldl (takeIn disk) walk := by
  induction names generalizing walk with
  | nil => rfl
  | cons name rest ih =>
    rw [List.foldl_cons, ih, lookAt, List.filter_cons]
    cases isVisibleBundleName name with
    | false => rfl
    | true => cases (disk.isDirectory (DiskPath.join frame.directory name)).run <;> rfl

theorem foldl_skip (front : String) (faults : List OsError) (walk : Walk) :
    faults.foldl (fun walk error => walk.skip ⟨front, error.message⟩) walk =
      ⟨walk.stack, ⟨walk.found.candidates,
        walk.found.skipped ++ faults.map fun error => ⟨front, error.message⟩⟩⟩ := by
  induction faults generalizing walk with
  | nil => simp
  | cons error rest ih =>
    rw [List.foldl_cons, ih]
    simp [Walk.skip]

def Frame.bundles (disk : Disk Id) (frame : Frame) : List BundleCandidate :=
  bundlesIn disk frame.directory frame.front frame.depth

theorem visitFrame_eq (disk : Disk Id) (walk : Walk) (frame : Frame) :
    visitFrame disk walk frame =
      ⟨(frame.bundles disk).reverse.flatMap (framesOf disk) ++ walk.stack,
        ⟨walk.found.candidates ++ frame.bundles disk,
          walk.found.skipped ++ (unlistable disk frame.directory frame.front ++
            (frame.bundles disk).flatMap (skipsOf disk))⟩⟩ := by
  unfold visitFrame Frame.bundles bundlesIn bundleNames unlistable
  cases (disk.list frame.directory).run with
  | error error => simp [Walk.skip]
  | ok listing =>
    dsimp only
    rw [foldl_lookAt, foldl_takeIn, foldl_skip, List.append_assoc]

theorem depth_of_mem_bundles {disk : Disk Id} {frame : Frame} {candidate : BundleCandidate}
    (member : candidate ∈ frame.bundles disk) : candidate.depth = frame.depth := by
  obtain ⟨name, -, rfl⟩ := List.mem_map.mp member
  rfl

/-- How many levels there are to go at each frame. -/
def Walk.levels (walk : Walk) : Multiset Nat :=
  ↑(walk.stack.map fun frame => maxBundleDepth - frame.depth)

/-- A frame gives way to frames with fewer levels to go. -/
theorem visitFrame_cutExpand (disk : Disk Id) (frame : Frame) (rest : List Frame)
    (found : BundleDiscovery) :
    CutExpand (· < ·) (visitFrame disk ⟨rest, found⟩ frame).levels
      (Walk.levels ⟨frame :: rest, found⟩) := by
  refine ⟨↑(((frame.bundles disk).reverse.flatMap (framesOf disk)).map fun inner =>
    maxBundleDepth - inner.depth), maxBundleDepth - frame.depth, fun fewer member => ?_, ?_⟩
  · obtain ⟨inner, pushed, rfl⟩ := List.mem_map.mp (Multiset.mem_coe.mp member)
    obtain ⟨candidate, inside, pushed⟩ := List.mem_flatMap.mp pushed
    have depth := depth_of_mem_bundles (List.mem_reverse.mp inside)
    unfold framesOf at pushed
    split at pushed
    · rename_i shallow
      rw [List.mem_singleton.mp pushed]
      dsimp only [Frame.inside]
      omega
    · cases pushed
  · rw [visitFrame_eq]
    simp only [Walk.levels, List.map_append, List.map_cons, ← Multiset.coe_add,
      ← Multiset.cons_coe, ← Multiset.singleton_add]
    abel

def drain (disk : Disk Id) (walk : Walk) : BundleDiscovery :=
  match walk with
  | ⟨[], found⟩ => found
  | ⟨frame :: rest, found⟩ => drain disk (visitFrame disk ⟨rest, found⟩ frame)
termination_by (WellFounded.cutExpand (r := fun a b : Nat => a < b) Nat.lt_wfRel.wf).wrap walk.levels
decreasing_by exact visitFrame_cutExpand disk frame rest found

/-- What the recursion finds from a frame on. -/
def Frame.discovery (disk : Disk Id) (frame : Frame) : BundleDiscovery :=
  (discoverFrom disk (maxBundleDepth - frame.depth) frame.depth frame.directory frame.front).run

theorem flatMap_guard {α γ : Type} (holds : α → Bool) (made : α → γ) (items : List α) :
    (items.flatMap fun item => if holds item then [made item] else []) =
      (items.filter holds).map made := by
  induction items with
  | nil => rfl
  | cons item rest ih => cases held : holds item <;> simp [held, ih]

section Levels

variable {disk : Disk Id} {frame : Frame}

theorem framesOf_shallow (shallow : frame.depth < maxBundleDepth) :
    (frame.bundles disk).reverse.flatMap (framesOf disk) =
      ((frame.bundles disk).filter (hasPlugIns disk)).reverse.map .inside := by
  rw [← List.filter_reverse, ← flatMap_guard]
  refine List.flatMap_congr fun candidate inside => ?_
  rw [framesOf, depth_of_mem_bundles (List.mem_reverse.mp inside)]
  simp only [shallow, and_true]

theorem skipsOf_shallow (shallow : frame.depth < maxBundleDepth) :
    (frame.bundles disk).flatMap (skipsOf disk) = [] := by
  refine List.flatMap_eq_nil_iff.mpr fun candidate inside => ?_
  rw [skipsOf, depth_of_mem_bundles inside]
  simp only [shallow, not_true_eq_false, false_and, and_false, ↓reduceIte]

theorem framesOf_deep (deep : ¬ frame.depth < maxBundleDepth) :
    (frame.bundles disk).reverse.flatMap (framesOf disk) = [] := by
  refine List.flatMap_eq_nil_iff.mpr fun candidate inside => ?_
  rw [framesOf, depth_of_mem_bundles (List.mem_reverse.mp inside)]
  simp only [deep, and_false, ↓reduceIte]

theorem skipsOf_deep (deep : ¬ frame.depth < maxBundleDepth) :
    (frame.bundles disk).flatMap (skipsOf disk) =
      (((frame.bundles disk).filter (hasPlugIns disk)).filter fun candidate =>
        (holdsBundles disk candidate.plugIns).run).map tooDeep := by
  rw [List.filter_filter, ← flatMap_guard]
  refine List.flatMap_congr fun candidate inside => ?_
  rw [skipsOf, depth_of_mem_bundles inside]
  simp only [deep, not_false_eq_true, true_and, Bool.and_eq_true, and_comm]

end Levels

/-- The recursion finds at a frame what its directory holds, and then what is found at the frames
that a walk pushes there, the last one first. -/
theorem Frame.discovery_eq (disk : Disk Id) (frame : Frame) :
    frame.discovery disk =
      ⟨frame.bundles disk ++ ((frame.bundles disk).reverse.flatMap (framesOf disk)).flatMap
          fun inner => (inner.discovery disk).candidates,
        unlistable disk frame.directory frame.front ++
          ((frame.bundles disk).flatMap (skipsOf disk) ++
            ((frame.bundles disk).reverse.flatMap (framesOf disk)).flatMap
              fun inner => (inner.discovery disk).skipped)⟩ := by
  unfold discovery
  by_cases shallow : frame.depth < maxBundleDepth
  · have levels : maxBundleDepth - frame.depth = maxBundleDepth - (frame.depth + 1) + 1 := by omega
    have deeper : ∀ candidate ∈ ((frame.bundles disk).filter (hasPlugIns disk)).reverse,
        candidate.depth = frame.depth := fun candidate inside =>
      depth_of_mem_bundles (List.mem_of_mem_filter (List.mem_reverse.mp inside))
    rw [levels, discoverFrom_succ, framesOf_shallow shallow, skipsOf_shallow shallow,
      List.flatMap_map, List.flatMap_map, List.nil_append]
    congr 2
    · refine List.flatMap_congr fun candidate inside => ?_
      dsimp only [Frame.inside]
      rw [deeper candidate inside]
    · refine List.flatMap_congr fun candidate inside => ?_
      dsimp only [Frame.inside]
      rw [deeper candidate inside]
  · have levels : maxBundleDepth - frame.depth = 0 := by omega
    rw [levels, discoverFrom_zero, framesOf_deep shallow, skipsOf_deep shallow]
    simp only [List.flatMap_nil, List.append_nil]
    rfl

/-- A walk finds what the recursion finds from each frame of its stack on. -/
theorem drain_eq (disk : Disk Id) (walk : Walk) :
    drain disk walk = (walk.stack.map (Frame.discovery disk)).foldl .append walk.found := by
  fun_induction drain disk walk with
  | case1 found => rfl
  | case2 frame rest found ih =>
    rw [ih, visitFrame_eq, BundleDiscovery.foldl_append, BundleDiscovery.foldl_append,
      List.map_cons, List.flatMap_cons, List.flatMap_cons, Frame.discovery_eq disk frame]
    simp only [List.map_append, List.flatMap_append, List.flatMap_map, List.append_assoc]

/-- The search for bundles with a stack, which begins with the directory of the kexts. -/
def discoverByStack (disk : Disk Id) (kexts : String) : BundleDiscovery :=
  let found := drain disk ⟨[⟨kexts, "", 1⟩], ⟨[], []⟩⟩
  ⟨found.candidates.mergeSort (fun a b => a.relativePath ≤ b.relativePath),
    found.skipped.mergeSort Skip.le⟩

theorem discoverByStack_eq (disk : Disk Id) (kexts : String) :
    discoverByStack disk kexts = (discoverBundles disk kexts).run := by
  unfold discoverByStack discoverBundles
  rw [drain_eq]
  rfl

/-- A search finds the bundles in the directory of the kexts and the plug-ins of each of them, in
the order of their paths, and nothing else. It skips the directories among these that cannot be
listed, names that these do not tell, and plug-ins of plug-ins. It lists as many directories as it
finds bundles with plug-ins, and the directory of the kexts. A search with a stack finds the
same. -/
theorem discoverBundles_exact (disk : Disk Id) (kexts : String) :
    let found := (discoverBundles disk kexts).run
    (found.candidates.Perm
        (outerBundles disk kexts ++ (hosts disk kexts).flatMap (innerBundles disk)) ∧
      found.candidates.Pairwise fun a b => a.relativePath ≤ b.relativePath) ∧
    (found.skipped.Perm
        (unlistable disk kexts "" ++ (hosts disk kexts).flatMap fun host =>
          unlistable disk host.plugIns (plugInsFront host) ++ (innerHosts disk host).map tooDeep) ∧
      found.skipped.Pairwise fun a b => toLex (a.path, a.reason) ≤ toLex (b.path, b.reason)) ∧
    (∀ directory listing, (disk.list directory).run = .ok listing →
      (∀ member ∈ listing.members, IsName member.1.toList) → ∀ name,
      name ∈ bundleNames disk directory ↔ name ∈ listing.members.map Prod.fst ∧ NamesBundle name ∧
        (disk.isDirectory (DiskPath.join directory name)).run = true) ∧
    (∃ listed, (discoverBundles disk.recording kexts).run [] = (found, listed) ∧
      listed.Perm (kexts :: (found.candidates.filter (hasPlugIns disk)).map (·.plugIns))) ∧
    discoverByStack disk kexts = found := by
  have searched := (lists_discoverFrom disk (maxBundleDepth - 1) 1 kexts "").bind_pure
    fun found => (⟨found.candidates.mergeSort (fun a b => a.relativePath ≤ b.relativePath),
      found.skipped.mergeSort Skip.le⟩ : BundleDiscovery)
  exact ⟨⟨candidates_perm disk kexts, candidates_sortsBy.pairwise _⟩,
    ⟨skipped_perm disk kexts, Skip.le_sortsBy.pairwise _⟩,
    fun directory listing listed named name => mem_bundleNames listed named name,
    ⟨listedFrom disk (maxBundleDepth - 1) 1 kexts "", searched [], listedFrom_perm disk kexts⟩,
    discoverByStack_eq disk kexts⟩

/-- A bundle whose plug-ins are the kexts themselves, by a link, beside a hidden one. -/
def loopedKexts : FileTree :=
  .singleDirectory "Kexts" [
    ("Lilu.KEXT", .directory [("Contents", .directory [("PlugIns", .link "/Kexts")])]),
    (".Old.kext", .directory [])]

def loopedBundles : List BundleCandidate :=
  [⟨"/Kexts/Lilu.KEXT", "Lilu.KEXT", 1⟩,
    ⟨"/Kexts/Lilu.KEXT/Contents/PlugIns/Lilu.KEXT", "Lilu.KEXT/Contents/PlugIns/Lilu.KEXT", 2⟩]

/-- The search ends although the way goes round. It finds the bundle, and once more as the plug-in
of itself, and lists three directories. -/
theorem loopedKexts_searched :
    (discoverBundles loopedKexts.disk "/Kexts").run.candidates.Perm loopedBundles ∧
    (discoverByStack loopedKexts.disk "/Kexts").candidates.Perm loopedBundles ∧
    NamesBundle "Lilu.KEXT" ∧
    ∃ listed, (discoverBundles loopedKexts.disk.recording "/Kexts").run [] =
        ((discoverBundles loopedKexts.disk "/Kexts").run, listed) ∧
      listed.length = 3 := by
  obtain ⟨⟨candidates, -⟩, -, names, ⟨listed, ran, counted⟩, byStack⟩ :=
    discoverBundles_exact loopedKexts.disk "/Kexts"
  have outer : bundleNames loopedKexts.disk "/Kexts" = ["Lilu.KEXT"] := by cbv
  have inner : bundleNames loopedKexts.disk "/Kexts/Lilu.KEXT/Contents/PlugIns" =
      ["Lilu.KEXT"] := by cbv
  have plainInner : ComponentPath.normalize "Lilu.KEXT/Contents/PlugIns/Lilu.KEXT" =
      "Lilu.KEXT/Contents/PlugIns/Lilu.KEXT" := by
    rw [ComponentPath.normalize_of_plain (by decide)]
    decide
  have outerFound := outerBundles_lilu outer
  have host : hosts loopedKexts.disk "/Kexts" = [⟨"/Kexts/Lilu.KEXT", "Lilu.KEXT", 1⟩] := by
    rw [hosts, outerFound]
    cbv
  have innerFound : innerBundles loopedKexts.disk ⟨"/Kexts/Lilu.KEXT", "Lilu.KEXT", 1⟩ =
      [⟨"/Kexts/Lilu.KEXT/Contents/PlugIns/Lilu.KEXT",
        "Lilu.KEXT/Contents/PlugIns/Lilu.KEXT", 2⟩] := by
    have place : BundleCandidate.plugIns ⟨"/Kexts/Lilu.KEXT", "Lilu.KEXT", 1⟩ =
        "/Kexts/Lilu.KEXT/Contents/PlugIns" := by decide
    have front : plugInsFront ⟨"/Kexts/Lilu.KEXT", "Lilu.KEXT", 1⟩ ++ "/" ++ "Lilu.KEXT" =
        "Lilu.KEXT/Contents/PlugIns/Lilu.KEXT" := by decide
    rw [innerBundles, place, inner, List.map_cons, front, plainInner]
    rfl
  rw [outerFound, host, List.flatMap_singleton, innerFound] at candidates
  have withPlugIns : loopedBundles.filter (hasPlugIns loopedKexts.disk) = loopedBundles := by cbv
  refine ⟨candidates, byStack ▸ candidates, ?_, listed, ran, ?_⟩
  · have members : (loopedKexts.disk.list "/Kexts").run =
        .ok { members := [("Lilu.KEXT", .directory), (".Old.kext", .directory)] } := by cbv
    have member : "Lilu.KEXT" ∈ bundleNames loopedKexts.disk "/Kexts" :=
      outer ▸ List.mem_singleton.mpr rfl
    exact ((names _ _ members (by decide) _).mp member).2.1
  · have bundles := candidates.filter (hasPlugIns loopedKexts.disk)
    rw [counted.length_eq, List.length_cons, List.length_map, bundles.length_eq]
    exact congrArg (·.length + 1) withPlugIns

end BootSnapshot.Scan
