import Mathlib.Data.List.Perm.Basic
import BootSnapshot.Proofs.FileSystem.Order
import BootSnapshot.Proofs.Sorted
import BootSnapshot.Scan.Basic

set_option autoImplicit false

namespace BootSnapshot

variable {one other : Disk Id}

namespace Traversal

/-- The steps at one member of a directory and below it. -/
def stepsAt (disk : Disk Id) (options : Options) (fuel depth : Nat) (ancestors : List Ancestor)
    (directory : String) (member : String × FileKind) : List Step :=
  match (visit disk options ancestors (DiskPath.join directory member.1) member.2).run with
  | .error obstacle => [.error obstacle]
  | .ok found =>
    if isHidden member.1 then []
    else if found.kind = .directory then
      .ok found :: (goThrough disk options fuel (depth + 1) ancestors found.path).run
    else [.ok found]

theorem goThrough_succ (disk : Disk Id) (options : Options) (fuel depth : Nat)
    (ancestors : List Ancestor) (directory : String) :
    (goThrough disk options (fuel + 1) depth ancestors directory).run =
      if options.maxDepth.any (· ≤ depth) then []
      else
        match (disk.list directory).run with
        | .error error => [.error (.system directory error)]
        | .ok listing => listing.faults.map (.error ∘ .nameless) ++ listing.members.flatMap
            (stepsAt disk options fuel depth (enter disk options ancestors directory).run
              directory) := by
  rw [goThrough]
  split
  · rfl
  · simp only [Id.run_bind]
    cases (disk.list directory).run with
    | error error => rfl
    | ok listing =>
      simp only [Id.run_bind, List.idRun_mapM, List.flatMap]
      rfl

theorem visit_eq (same : one.SameButOrder other) : visit other = visit one := by
  rw [same.eq]
  rfl

theorem enter_eq (same : one.SameButOrder other) : enter other = enter one := by
  rw [same.eq]
  rfl

/-- The steps below a directory come in some order on each disk. The ancestors of a step do not
depend on the order, so that loops are met alike. -/
theorem goThrough_perm (same : one.SameButOrder other) (options : Options) (fuel depth : Nat)
    (ancestors : List Ancestor) (directory : String) :
    (goThrough one options fuel depth ancestors directory).run.Perm
      (goThrough other options fuel depth ancestors directory).run := by
  induction fuel generalizing depth ancestors directory with
  | zero => exact List.Perm.refl _
  | succ fuel ih =>
    have member (ancestors : List Ancestor) (member : String × FileKind) :
        (stepsAt one options fuel depth ancestors directory member).Perm
          (stepsAt other options fuel depth ancestors directory member) := by
      unfold stepsAt
      rw [visit_eq same]
      split
      · exact List.Perm.refl _
      · split
        · exact List.Perm.refl _
        · split
          · exact (ih _ _ _).cons _
          · exact List.Perm.refl _
    rw [goThrough_succ, goThrough_succ, enter_eq same]
    split
    · exact List.Perm.refl _
    · have listed := same.list directory
      generalize (one.list directory).run = held, (other.list directory).run = held' at listed ⊢
      cases listed with
      | failed error => exact List.Perm.refl _
      | listed members faults =>
        exact (faults.map _).append (members.flatMap fun found _ => member _ found)

theorem start_perm (same : one.SameButOrder other) (options : Options) (path : String) :
    (start one options path).run.Perm (start other options path).run := by
  unfold start
  simp only [Id.run_bind, ← same.ownKind, ← same.status, ← same.depthBound, visit_eq same]
  cases (one.ownKind path).run with
  | error error => exact List.Perm.refl _
  | ok kind =>
    simp only [Id.run_bind]
    cases (visit one options [] path kind).run with
    | error obstacle => exact List.Perm.refl _
    | ok found =>
      dsimp only
      split
      · exact List.Perm.refl _
      · simp only [Id.run_bind]
        cases (one.status path).run with
        | error error => exact List.Perm.refl _
        | ok status =>
          dsimp only
          split
          · exact (goThrough_perm same options _ 0 [] path).cons _
          · exact List.Perm.refl _

end Traversal

namespace Skip

/-- Skips are sorted by all that they hold. -/
theorem le_sortsBy : SortsBy le fun skip => toLex (skip.path, skip.reason) := by
  intro one other
  rw [Prod.Lex.toLex_le_toLex]
  simp [le]

theorem mergeSort_eq {one other : List Skip} (perm : one.Perm other) :
    one.mergeSort le = other.mergeSort le := by
  refine le_sortsBy.mergeSort_eq perm fun a _ b _ same => ?_
  have parts := Prod.mk.inj (toLex.injective same)
  obtain ⟨path, reason⟩ := a
  exact congrArg₂ Skip.mk parts.1 parts.2

end Skip

namespace Scan

theorem judge_eq (same : one.SameButOrder other) : judge other = judge one := by
  rw [same.eq]
  rfl

/-- The files of a category are told in the same words on both disks. -/
theorem findFiles_eq (same : one.SameButOrder other) (options : Traversal.Options)
    (extensions : List String) (directory : String) :
    (findFiles one options extensions directory).run =
      (findFiles other options extensions directory).run := by
  unfold findFiles
  simp only [Id.run_bind, List.idRun_mapM, Id.run_pure, judge_eq same]
  have perm := (Traversal.start_perm same options directory).map fun step =>
    (judge one directory extensions step).run
  rw [distinctTexts_eq (perm.filterMap Yield.file?), Skip.mergeSort_eq (perm.filterMap Yield.skip?)]

theorem isDirectory_eq (same : one.SameButOrder other) : other.isDirectory = one.isDirectory := by
  rw [same.eq]
  rfl

theorem inspect_eq (same : one.SameButOrder other) : inspect other = inspect one := by
  rw [same.eq]
  rfl

theorem holdsBundles_eq (same : one.SameButOrder other) (directory : String) :
    (holdsBundles other directory).run = (holdsBundles one directory).run := by
  unfold holdsBundles
  simp only [Id.run_bind]
  have listed := same.list directory
  generalize (one.list directory).run = held, (other.list directory).run = held' at listed ⊢
  cases listed with
  | failed error => rfl
  | listed members _ => exact members.any_eq.symm

theorem idRun_filterM {α : Type} (test : α → Id Bool) (items : List α) :
    (items.filterM test).run = items.filter fun item => (test item).run := by
  have aux (found : List α) : (items.filterAuxM test found).run =
      (items.filter fun item => (test item).run).reverse ++ found := by
    induction items generalizing found with
    | nil => rfl
    | cons item rest ih =>
      rw [List.filterAuxM, Id.run_bind, ih]
      cases holds : (test item).run <;> simp [holds]
  rw [List.filterM, Id.run_bind, aux]
  simp

/-- Two discoveries of the same bundles and skips, in some order each. -/
structure BundleDiscovery.SameButOrder (found found' : BundleDiscovery) : Prop where
  candidates : found.candidates.Perm found'.candidates
  skipped : found.skipped.Perm found'.skipped

theorem BundleDiscovery.foldl_append (inner : List BundleDiscovery) (outer : BundleDiscovery) :
    inner.foldl .append outer =
      ⟨outer.candidates ++ inner.flatMap candidates, outer.skipped ++ inner.flatMap skipped⟩ := by
  induction inner generalizing outer with
  | nil => simp
  | cons found rest ih =>
    rw [List.foldl_cons, ih]
    simp [append]

theorem candidatesAmong_perm (same : one.SameButOrder other) (directory front : String)
    (depth : Nat) {names names' : List String} (perm : names.Perm names') :
    (candidatesAmong one directory front depth names).run.Perm
      (candidatesAmong other directory front depth names').run := by
  unfold candidatesAmong
  rw [idRun_filterM, idRun_filterM, isDirectory_eq same]
  exact ((perm.filter _).map _).filter _

theorem discoverFrom_same (same : one.SameButOrder other) (levels depth : Nat)
    (directory front : String) :
    (discoverFrom one levels depth directory front).run.SameButOrder
      (discoverFrom other levels depth directory front).run := by
  induction levels generalizing depth directory front with
  | zero =>
    unfold discoverFrom
    simp only [Id.run_bind]
    have listed := same.list directory
    generalize (one.list directory).run = held, (other.list directory).run = held' at listed ⊢
    cases listed with
    | failed error => exact ⟨.refl _, .refl _⟩
    | listed members faults =>
      have candidates := candidatesAmong_perm same directory front depth (members.map Prod.fst)
      simp only [Id.run_bind, idRun_filterM, isDirectory_eq same, holdsBundles_eq same, Id.run_pure]
      exact ⟨candidates, (faults.map _).append (((candidates.filter _).filter _).map _)⟩
  | succ levels ih =>
    unfold discoverFrom
    simp only [Id.run_bind]
    have listed := same.list directory
    generalize (one.list directory).run = held, (other.list directory).run = held' at listed ⊢
    cases listed with
    | failed error => exact ⟨.refl _, .refl _⟩
    | listed members faults =>
      have candidates := candidatesAmong_perm same directory front depth (members.map Prod.fst)
      simp only [Id.run_bind, idRun_filterM, isDirectory_eq same, Id.run_pure, List.idRun_mapM,
        BundleDiscovery.foldl_append, List.flatMap_map]
      have inner := (List.reverse_perm _).trans
        ((candidates.filter fun candidate => (one.isDirectory candidate.plugIns).run).trans
          (List.reverse_perm _).symm)
      exact ⟨candidates.append (inner.flatMap fun _ _ => (ih _ _ _).candidates),
        (faults.map _).append (inner.flatMap fun _ _ => (ih _ _ _).skipped)⟩

theorem discoverBundles_same (same : one.SameButOrder other) (directory : String) :
    (discoverBundles one directory).run.candidates.Perm
        (discoverBundles other directory).run.candidates ∧
      (discoverBundles one directory).run.skipped =
        (discoverBundles other directory).run.skipped := by
  have found := discoverFrom_same same (maxBundleDepth - 1) 1 directory ""
  unfold discoverBundles
  simp only [Id.run_bind, Id.run_pure]
  exact ⟨SortsBy.mergeSort_perm found.candidates, Skip.mergeSort_eq found.skipped⟩

def Job.results (disk : Disk Id) (followLinks : Bool) : Job → List JobResult
  | .files category directory =>
    [.files category
      (findFiles disk { followLinks := followLinks } category.extensions directory).run]
  | .descriptor number candidate => [.descriptor number (inspect disk candidate).run]
  | .bundles directory =>
    .bundles (discoverBundles disk directory).run.skipped ::
      (discoverBundles disk directory).run.candidates.zipIdx.map fun (candidate, number) =>
        .descriptor number (inspect disk candidate).run

theorem results_descriptorJobs (disk : Disk Id) (followLinks : Bool)
    (candidates : List BundleCandidate) :
    (descriptorJobs candidates).flatMap (Job.results disk followLinks) =
      candidates.zipIdx.map fun (candidate, number) =>
        .descriptor number (inspect disk candidate).run := by
  rw [descriptorJobs, List.flatMap_map, List.map_eq_flatMap]
  rfl

theorem results_chosen {disk : Disk Id} {followLinks : Bool} {jobs : List Job} {place : Nat}
    (inside : place < jobs.length) {job : Job} (chosen : jobs[place] = job) :
    (job.results disk followLinks ++
        (jobs.eraseIdx place).flatMap (Job.results disk followLinks)).Perm
      (jobs.flatMap (Job.results disk followLinks)) := by
  subst chosen
  exact (List.getElem_cons_eraseIdx_perm inside).flatMap_right (Job.results disk followLinks)

/-- Whoever works on the queue, and whichever job ends first, the results are the same. -/
theorem runJobs_perm (disk : Disk Id) (followLinks : Bool) (schedule : Schedule) (ended : Nat)
    (jobs : List Job) :
    (runJobs disk followLinks schedule ended jobs).run.Perm
      (jobs.flatMap (Job.results disk followLinks)) := by
  fun_induction runJobs disk followLinks schedule ended jobs with
  | case1 ended jobs waiting place inside others category directory chosen ih =>
    simp only [Id.run_bind, Id.run_pure]
    exact (ih.cons _).trans (results_chosen inside chosen)
  | case2 ended jobs waiting place inside others number candidate chosen ih =>
    simp only [Id.run_bind, Id.run_pure]
    exact (ih.cons _).trans (results_chosen inside chosen)
  | case3 ended jobs waiting place inside others directory chosen ih =>
    simp only [Id.run_bind, Id.run_pure]
    have rest := ih (discoverBundles disk directory).run
    rw [List.flatMap_append, results_descriptorJobs] at rest
    -- The jobs for bundles go to the end of the queue, their results belong to this job.
    exact ((rest.trans List.perm_append_comm).cons _).trans (results_chosen inside chosen)
  | case4 ended jobs done =>
    rw [List.length_pos_iff, not_not] at done
    rw [done]
    exact List.Perm.refl _

theorem JobResult.le_sortsBy : SortsBy le fun result => toLex result.ticket := by
  intro one other
  rw [Prod.Lex.toLex_le_toLex]
  simp [le]

/-- Tickets put the results for bundles back into the order in which the bundles were found. -/
theorem sorted_bundles (disk : Disk Id) (followLinks : Bool) (schedule : Schedule)
    (directory : String) :
    (runJobs disk followLinks schedule 0 [.bundles directory]).run.mergeSort JobResult.le =
      (Job.bundles directory).results disk followLinks := by
  have perm := runJobs_perm disk followLinks schedule 0 [.bundles directory]
  rw [List.flatMap_singleton] at perm
  refine JobResult.le_sortsBy.mergeSort_eq_of_rising perm ?_
  rw [Job.results, List.pairwise_cons, List.pairwise_map]
  constructor
  · intro result member
    obtain ⟨_, _, rfl⟩ := List.mem_map.mp member
    exact Prod.Lex.toLex_lt_toLex.mpr (Or.inr ⟨rfl, Nat.zero_lt_succ _⟩)
  · have numbers : ((discoverBundles disk directory).run.candidates.zipIdx.map Prod.snd).Pairwise
        (· < ·) := by
      rw [List.zipIdx_map_snd]
      exact List.pairwise_lt_range'
    refine (List.pairwise_map.mp numbers).imp fun {a b} less => ?_
    exact Prod.Lex.toLex_lt_toLex.mpr (Or.inr ⟨rfl, Nat.succ_lt_succ less⟩)

/-- What is read off the results of a search for bundles, whatever their numbers. -/
theorem flatMap_results_bundles {β : Type} (disk : Disk Id) (followLinks : Bool)
    (directory : String) (read : JobResult → List β)
    (numberless : ∀ number inspected, read (.descriptor number inspected) =
      read (.descriptor 0 inspected)) :
    ((Job.bundles directory).results disk followLinks).flatMap read =
      read (.bundles (discoverBundles disk directory).run.skipped) ++
        (discoverBundles disk directory).run.candidates.flatMap fun candidate =>
          read (.descriptor 0 (inspect disk candidate).run) := by
  rw [Job.results, List.flatMap_cons, List.flatMap_map]
  congr 1
  conv => rhs; rw [← List.zipIdx_map_fst 0 (discoverBundles disk directory).run.candidates,
    List.flatMap_map]
  exact List.flatMap_congr fun _ _ => numberless _ _

/-- What is read off results, whatever the numbers of bundles, is the same on both disks. -/
theorem results_perm {β : Type} (same : one.SameButOrder other) (followLinks : Bool) (job : Job)
    (read : JobResult → List β)
    (numberless : ∀ number inspected, read (.descriptor number inspected) =
      read (.descriptor 0 inspected)) :
    ((job.results one followLinks).flatMap read).Perm
      ((job.results other followLinks).flatMap read) := by
  cases job with
  | files category directory =>
    simp only [Job.results, findFiles_eq same]
    exact List.Perm.refl _
  | descriptor number candidate =>
    simp only [Job.results, inspect_eq same]
    exact List.Perm.refl _
  | bundles directory =>
    obtain ⟨candidates, skipped⟩ := discoverBundles_same same directory
    rw [flatMap_results_bundles one followLinks directory read numberless,
      flatMap_results_bundles other followLinks directory read numberless, skipped, inspect_eq same]
    exact (candidates.flatMap_right _).append_left _

/-- What is read off the results in the order of their tickets comes from all jobs. -/
theorem gathered_jobs {β : Type} (disk : Disk Id) (followLinks : Bool) (schedule : Schedule)
    (jobs : List Job) (read : JobResult → List β) :
    (((runJobs disk followLinks schedule 0 jobs).run.mergeSort JobResult.le).flatMap read).Perm
      (jobs.flatMap fun job => (job.results disk followLinks).flatMap read) := by
  rw [← List.flatMap_assoc]
  refine List.Perm.flatMap_right read ?_
  exact (List.mergeSort_perm _ _).trans (runJobs_perm disk followLinks schedule 0 jobs)

theorem gathered_perm {β : Type} (same : one.SameButOrder other) (followLinks : Bool)
    (schedule schedule' : Schedule) (jobs : List Job) (read : JobResult → List β)
    (numberless : ∀ number inspected, read (.descriptor number inspected) =
      read (.descriptor 0 inspected)) :
    (((runJobs one followLinks schedule 0 jobs).run.mergeSort JobResult.le).flatMap read).Perm
      (((runJobs other followLinks schedule' 0 jobs).run.mergeSort JobResult.le).flatMap read) := by
  have each : (jobs.flatMap fun job => (job.results one followLinks).flatMap read).Perm
      (jobs.flatMap fun job => (job.results other followLinks).flatMap read) :=
    List.Perm.flatMap (.refl _) fun job _ => results_perm same followLinks job read numberless
  have gathered := gathered_jobs one followLinks schedule jobs read
  have gathered' := gathered_jobs other followLinks schedule' jobs read
  exact gathered.trans (each.trans gathered'.symm)

end Scan
end BootSnapshot
