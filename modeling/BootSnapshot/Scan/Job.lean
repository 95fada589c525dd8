import BootSnapshot.Scan.Bundle
import BootSnapshot.Scan.Files

/-!
# The jobs of a scan

The work of a scan is done in jobs: one for the files of each category, one that finds the bundles,
and then one for each bundle found. Several workers take jobs from a queue, and which of the jobs
in progress ends first is not known. Each result therefore carries a ticket, and results are joined
in the order of their tickets.
-/

set_option autoImplicit false

namespace BootSnapshot.Scan

inductive Job where
  | files (category : Category) (directory : String)
  | bundles (directory : String)
  /-- The bundle with a number among the bundles found. -/
  | descriptor (number : Nat) (candidate : BundleCandidate)

def Job.isDiscovery : Job → Bool
  | .bundles _ => true
  | _ => false

def descriptorJobs (candidates : List BundleCandidate) : List Job :=
  candidates.zipIdx.map fun (candidate, number) => .descriptor number candidate

theorem countP_descriptorJobs (candidates : List BundleCandidate) :
    (descriptorJobs candidates).countP Job.isDiscovery = 0 := by
  refine List.countP_eq_zero.mpr fun job member => ?_
  obtain ⟨_, _, rfl⟩ := List.mem_map.mp member
  exact Bool.false_ne_true

/-- Taking an item out of a list takes it out of the count. -/
theorem countP_eraseIdx {α : Type} (holds : α → Bool) (items : List α) (place : Nat)
    (inside : place < items.length) :
    items.countP holds =
      (if holds items[place] then 1 else 0) + (items.eraseIdx place).countP holds := by
  rw [List.eraseIdx_eq_take_drop_succ]
  conv => lhs; rw [← List.take_append_drop place items, List.drop_eq_getElem_cons inside]
  simp only [List.countP_append, List.countP_cons]
  omega

inductive JobResult where
  | files (category : Category) (found : FoundFiles)
  | bundles (skipped : List Skip)
  | descriptor (number : Nat) (inspected : Except Skip Component)

namespace JobResult

/-- The place of a result among all: categories in their order, and bundles in the order in which
they were found. -/
def ticket : JobResult → Nat × Nat
  | .files category _ => (category.rank, 0)
  | .bundles _ => (Category.kext.rank, 0)
  | .descriptor number _ => (Category.kext.rank, number + 1)

def le (a b : JobResult) : Bool :=
  a.ticket.1 < b.ticket.1 || a.ticket.1 = b.ticket.1 && a.ticket.2 ≤ b.ticket.2

def entries : JobResult → List Component
  | .files category found =>
    found.files.map fun path => { relativePath := path, category := category }
  | .bundles _ => []
  | .descriptor _ (.ok component) => [component]
  | .descriptor _ (.error _) => []

/-- The skips, told from the root of the scan. -/
def skipped : JobResult → List Skip
  | .files category found => found.skipped.map (·.within category.directory)
  | .bundles skipped => skipped.map (·.within Category.kext.directory)
  | .descriptor _ (.ok _) => []
  | .descriptor _ (.error skip) => [skip.within Category.kext.directory]

end JobResult

structure Schedule where
  workers : Nat
  /-- Which of the jobs in progress is the next to end, given how many have ended; taken modulo
  their number. -/
  choice : Nat → Nat

namespace Schedule

/-- Jobs end in the order in which they began. -/
def inOrder (workers : Nat) : Schedule := ⟨workers, fun _ => 0⟩

/-- The place in a queue of so many jobs of the one that ends next. -/
def place (schedule : Schedule) (ended waiting : Nat) : Nat :=
  schedule.choice ended % min (max schedule.workers 1) waiting

theorem place_lt (schedule : Schedule) (ended waiting : Nat) (positive : 0 < waiting) :
    schedule.place ended waiting < waiting := by
  have bounded := Nat.mod_lt (schedule.choice ended)
    (show 0 < min (max schedule.workers 1) waiting by omega)
  simp only [place]
  omega

end Schedule

variable {m : Type → Type} [Monad m]

/-- Works on a queue until it is empty. The results come in the order in which the jobs end. -/
def runJobs (disk : Disk m) (followLinks : Bool) (schedule : Schedule) (ended : Nat)
    (jobs : List Job) : m (List JobResult) :=
  if waiting : 0 < jobs.length then
    let place := schedule.place ended jobs.length
    have inside : place < jobs.length := schedule.place_lt ended jobs.length waiting
    let others := jobs.eraseIdx place
    match _chosen : jobs[place] with
    | .files category directory => do
      let found ← findFiles disk { followLinks := followLinks } category.extensions directory
      return .files category found :: (← runJobs disk followLinks schedule (ended + 1) others)
    | .descriptor number candidate => do
      let inspected ← inspect disk candidate
      return .descriptor number inspected ::
        (← runJobs disk followLinks schedule (ended + 1) others)
    | .bundles directory => do
      let found ← discoverBundles disk directory
      return .bundles found.skipped :: (← runJobs disk followLinks schedule (ended + 1)
        (others ++ descriptorJobs found.candidates))
  else return []
termination_by (jobs.countP Job.isDiscovery, jobs.length)
decreasing_by
  all_goals
    have whole := countP_eraseIdx Job.isDiscovery jobs place inside
    have shorter := List.length_eraseIdx_of_lt inside
    simp only [_chosen, Job.isDiscovery, Bool.false_eq_true, ↓reduceIte] at whole
    simp only [place] at whole shorter
    simp only [Prod.lex_def, List.countP_append, countP_descriptorJobs]
    omega

end BootSnapshot.Scan
