import BootSnapshot.Proofs.Scan.Order

set_option autoImplicit false

namespace BootSnapshot.Scan

def filesOf (disk : Disk Id) (followLinks : Bool) (root : String) (category : Category) :
    FoundFiles :=
  (findFiles disk { followLinks := followLinks } category.extensions
    (categoryPath root category)).run

def bundlesOf (disk : Disk Id) (root : String) : BundleDiscovery :=
  (discoverBundles disk (categoryPath root .kext)).run

/-- What is found in the directory of a category: a file, or the kext in a bundle. -/
inductive Finds (disk : Disk Id) (followLinks : Bool) (root : String) :
    Category → Component → Prop
  | file {category : Category} {path : String} (plain : category ≠ .kext)
    (found : path ∈ (filesOf disk followLinks root category).files) :
    Finds disk followLinks root category { relativePath := path, category := category }
  | kext {candidate : BundleCandidate} {kext : Component}
    (found : candidate ∈ (bundlesOf disk root).candidates)
    (holds : (inspect disk candidate).run = .ok kext) : Finds disk followLinks root .kext kext

/-- What is skipped in the directory of a category. -/
inductive Skips (disk : Disk Id) (followLinks : Bool) (root : String) : Category → Skip → Prop
  | file {category : Category} {skip : Skip} (plain : category ≠ .kext)
    (met : skip ∈ (filesOf disk followLinks root category).skipped) :
    Skips disk followLinks root category (skip.within category.directory)
  | search {skip : Skip} (met : skip ∈ (bundlesOf disk root).skipped) :
    Skips disk followLinks root .kext (skip.within Category.kext.directory)
  | bundle {candidate : BundleCandidate} {skip : Skip}
    (found : candidate ∈ (bundlesOf disk root).candidates)
    (fails : (inspect disk candidate).run = .error skip) :
    Skips disk followLinks root .kext (skip.within Category.kext.directory)

variable {disk : Disk Id} {followLinks : Bool} {root : String} {category : Category}

theorem readBundle_ok {candidate : BundleCandidate} {kext : Component}
    (holds : (readBundle disk candidate).run = .ok kext) :
    kext.category = .kext ∧ kext.relativePath = candidate.relativePath := by
  unfold readBundle at holds
  rw [Id.run_bind] at holds
  split at holds
  · cases holds
  · rename_i place _
    rw [Id.run_bind] at holds
    split at holds
    · cases holds
    · split at holds
      · cases holds
      · obtain rfl := Except.ok.inj holds
        exact ⟨rfl, rfl⟩

theorem inspect_ok {candidate : BundleCandidate} {kext : Component}
    (holds : (inspect disk candidate).run = .ok kext) :
    kext.category = .kext ∧ kext.relativePath = candidate.relativePath := by
  unfold inspect at holds
  rw [Id.run_bind] at holds
  split at holds
  · rename_i read
    obtain rfl := Except.ok.inj holds
    exact readBundle_ok read
  · cases holds

theorem inspect_error {candidate : BundleCandidate} {skip : Skip}
    (fails : (inspect disk candidate).run = .error skip) : skip.path = candidate.relativePath := by
  unfold inspect at fails
  rw [Id.run_bind] at fails
  split at fails
  · cases fails
  · rw [← Except.error.inj fails]

theorem firstJob_of_ne (root : String) (plain : category ≠ .kext) :
    firstJob root category = .files category (categoryPath root category) := by
  cases category with
  | kext => exact absurd rfl plain
  | acpi | driver | tool => rfl

/-- What is read off the results for a category, whatever the numbers of bundles. -/
theorem mem_results_iff {β : Type} {read : JobResult → List β} {item : β}
    (numberless : ∀ number inspected, read (.descriptor number inspected) =
      read (.descriptor 0 inspected)) :
    item ∈ ((firstJob root category).results disk followLinks).flatMap read ↔
      category ≠ .kext ∧ item ∈ read (.files category (filesOf disk followLinks root category)) ∨
      category = .kext ∧ (item ∈ read (.bundles (bundlesOf disk root).skipped) ∨
        ∃ candidate ∈ (bundlesOf disk root).candidates,
          item ∈ read (.descriptor 0 (inspect disk candidate).run)) := by
  by_cases kext : category = .kext
  · subst kext
    rw [firstJob, flatMap_results_bundles disk followLinks _ read numberless, List.mem_append,
      List.mem_flatMap]
    simp only [ne_eq, not_true_eq_false, false_and, true_and, false_or]
    rfl
  · rw [firstJob_of_ne root kext, Job.results, List.flatMap_singleton]
    simp only [ne_eq, kext, not_false_eq_true, true_and, false_and, or_false]
    rfl

theorem mem_entries_descriptor {number : Nat} {inspected : Except Skip Component}
    {entry : Component} :
    entry ∈ (JobResult.descriptor number inspected).entries ↔ inspected = .ok entry := by
  cases inspected with
  | error skip => simp [JobResult.entries]
  | ok component => simp [JobResult.entries, eq_comm]

theorem mem_skipped_descriptor {number : Nat} {inspected : Except Skip Component} {skip : Skip} :
    skip ∈ (JobResult.descriptor number inspected).skipped ↔
      ∃ met, inspected = .error met ∧ met.within Category.kext.directory = skip := by
  cases inspected with
  | error met => simp [JobResult.skipped, eq_comm]
  | ok component => simp [JobResult.skipped]

theorem mem_entries_firstJob {entry : Component} :
    entry ∈ ((firstJob root category).results disk followLinks).flatMap JobResult.entries ↔
      Finds disk followLinks root category entry := by
  rw [mem_results_iff fun _ inspected => by cases inspected <;> rfl]
  simp only [mem_entries_descriptor]
  constructor
  · rintro (⟨plain, member⟩ | ⟨rfl, member | ⟨candidate, found, holds⟩⟩)
    · obtain ⟨path, found, rfl⟩ := List.mem_map.mp member
      exact .file plain found
    · cases member
    · exact .kext found holds
  · rintro (⟨plain, found⟩ | ⟨found, holds⟩)
    · exact Or.inl ⟨plain, List.mem_map.mpr ⟨_, found, rfl⟩⟩
    · exact Or.inr ⟨rfl, Or.inr ⟨_, found, holds⟩⟩

theorem mem_skipped_firstJob {skip : Skip} :
    skip ∈ ((firstJob root category).results disk followLinks).flatMap JobResult.skipped ↔
      Skips disk followLinks root category skip := by
  rw [mem_results_iff fun _ inspected => by cases inspected <;> rfl]
  simp only [mem_skipped_descriptor]
  constructor
  · rintro (⟨plain, member⟩ | ⟨rfl, member | ⟨candidate, found, met, fails, rfl⟩⟩)
    · obtain ⟨met, inside, rfl⟩ := List.mem_map.mp member
      exact .file plain inside
    · obtain ⟨met, inside, rfl⟩ := List.mem_map.mp member
      exact .search inside
    · exact .bundle found fails
  · rintro (⟨plain, met⟩ | met | ⟨found, fails⟩)
    · exact Or.inl ⟨plain, List.mem_map.mpr ⟨_, met, rfl⟩⟩
    · exact Or.inr ⟨rfl, Or.inl (List.mem_map.mpr ⟨_, met, rfl⟩)⟩
    · exact Or.inr ⟨rfl, Or.inr ⟨_, found, _, fails, rfl⟩⟩

end BootSnapshot.Scan
