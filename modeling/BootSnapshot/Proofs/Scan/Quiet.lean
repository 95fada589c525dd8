import BootSnapshot.Scan.Basic

set_option autoImplicit false

namespace BootSnapshot

variable {σ β : Type}

/-- What a view shows of the state is the same after the operation as before it. -/
def Keeps (view : σ → β) {α : Type} (operation : StateM σ α) : Prop :=
  ∀ state, view (operation.run state).2 = view state

namespace Keeps

variable {view : σ → β} {α γ : Type}

theorem pure (value : α) : Keeps view (Pure.pure value : StateM σ α) := fun _ => rfl

theorem bind {first : StateM σ α} {next : α → StateM σ γ} (kept : Keeps view first)
    (later : ∀ value, Keeps view (next value)) : Keeps view (first >>= next) :=
  fun state => (later _ _).trans (kept state)

theorem mapM {operation : α → StateM σ γ} {items : List α}
    (each : ∀ item ∈ items, Keeps view (operation item)) : Keeps view (items.mapM operation) := by
  induction items with
  | nil => exact Keeps.pure []
  | cons item rest ih =>
    rw [List.mapM_cons]
    have below := ih fun other member => each other (List.mem_cons_of_mem item member)
    refine (each item List.mem_cons_self).bind fun value => below.bind fun values => ?_
    exact Keeps.pure (value :: values)

theorem filterM {test : α → StateM σ Bool} (each : ∀ item, Keeps view (test item))
    (items : List α) : Keeps view (items.filterM test) := by
  have aux (found : List α) : Keeps view (items.filterAuxM test found) := by
    induction items generalizing found with
    | nil => exact Keeps.pure found
    | cons item rest ih => exact (each item).bind fun holds => ih _
  exact (aux []).bind fun found => Keeps.pure found.reverse

theorem allM {test : α → StateM σ Bool} (each : ∀ item, Keeps view (test item))
    (items : List α) : Keeps view (items.allM test) := by
  induction items with
  | nil => exact Keeps.pure true
  | cons item rest ih =>
    refine (each item).bind fun holds => ?_
    cases holds with
    | true => exact ih
    | false => exact Keeps.pure false

end Keeps

/-- A view that no reading operation of a disk changes. -/
structure Disk.Quiet (disk : Disk (StateM σ)) (view : σ → β) : Prop where
  canonical : ∀ path, Keeps view (disk.canonical path)
  status : ∀ path, Keeps view (disk.status path)
  ownKind : ∀ path, Keeps view (disk.ownKind path)
  list : ∀ path, Keeps view (disk.list path)
  read : ∀ path, Keeps view (disk.read path)
  depthBound : Keeps view disk.depthBound

variable {disk : Disk (StateM σ)} {view : σ → β}

namespace Disk

theorem Quiet.isDirectory (quiet : disk.Quiet view) (path : String) :
    Keeps view (disk.isDirectory path) :=
  (quiet.status path).bind fun
    | .ok _ => .pure _
    | .error _ => .pure _

theorem Quiet.isFile (quiet : disk.Quiet view) (path : String) : Keeps view (disk.isFile path) :=
  (quiet.status path).bind fun
    | .ok _ => .pure _
    | .error _ => .pure _

theorem Quiet.sameFile (quiet : disk.Quiet view) (one other : String) :
    Keeps view (disk.sameFile one other) := by
  refine (quiet.canonical one).bind fun first => (quiet.canonical other).bind fun second => ?_
  split <;> exact .pure _

end Disk

namespace Traversal

variable (quiet : disk.Quiet view)
include quiet

theorem keeps_placeOf (path : String) : Keeps view (placeOf disk path) :=
  (quiet.canonical path).bind fun
    | .ok _ => .pure _
    | .error _ => .pure _

theorem keeps_visit (options : Options) (ancestors : List Ancestor) (path : String)
    (kind : FileKind) : Keeps view (visit disk options ancestors path kind) := by
  unfold visit
  split
  · refine (quiet.status path).bind fun found => ?_
    split
    · exact .pure _
    · split
      · refine (keeps_placeOf quiet path).bind fun place => ?_
        split <;> exact .pure _
      · exact .pure _
  · exact .pure _

theorem keeps_enter (options : Options) (ancestors : List Ancestor) (path : String) :
    Keeps view (enter disk options ancestors path) := by
  unfold enter
  split
  · exact (keeps_placeOf quiet path).bind fun place => .pure _
  · exact .pure _

theorem keeps_goThrough (options : Options) (fuel depth : Nat) (ancestors : List Ancestor)
    (directory : String) : Keeps view (goThrough disk options fuel depth ancestors directory) := by
  induction fuel generalizing depth ancestors directory with
  | zero => exact .pure _
  | succ fuel ih =>
    unfold goThrough
    split
    · exact .pure _
    · refine (keeps_enter quiet options ancestors directory).bind fun entered => ?_
      refine (quiet.list directory).bind fun listed => ?_
      split
      · exact .pure _
      · refine Keeps.bind (Keeps.mapM fun member _ => ?_) fun steps => .pure _
        refine (keeps_visit quiet options entered _ _).bind fun step => ?_
        split
        · exact .pure _
        · split
          · exact .pure _
          · split
            · exact (ih _ _ _).bind fun below => .pure _
            · exact .pure _

theorem keeps_start (options : Options) (path : String) :
    Keeps view (start disk options path) := by
  refine (quiet.ownKind path).bind fun kind => ?_
  split
  · exact .pure _
  · refine (keeps_visit quiet options [] path _).bind fun step => ?_
    split
    · exact .pure _
    · split
      · exact .pure _
      · refine (quiet.status path).bind fun status => ?_
        split
        · exact .pure _
        · split
          · refine quiet.depthBound.bind fun fuel => ?_
            exact (keeps_goThrough quiet options fuel 0 [] path).bind fun below => .pure _
          · exact .pure _

end Traversal

namespace Scan

variable (quiet : disk.Quiet view)
include quiet

theorem keeps_judge (directory : String) (extensions : List String) (step : Traversal.Step) :
    Keeps view (judge disk directory extensions step) := by
  unfold judge
  split
  · exact .pure _
  · split
    · exact .pure _
    · split
      · exact .pure _
      · split
        · exact .pure _
        · refine (quiet.status _).bind fun status => ?_
          split <;> exact .pure _

theorem keeps_findFiles (options : Traversal.Options) (extensions : List String)
    (directory : String) : Keeps view (findFiles disk options extensions directory) := by
  refine (Traversal.keeps_start quiet options directory).bind fun steps => ?_
  exact (Keeps.mapM fun step _ => keeps_judge quiet directory extensions step).bind fun _ => .pure _

theorem keeps_holdsBundles (directory : String) : Keeps view (holdsBundles disk directory) :=
  (quiet.list directory).bind fun
    | .ok _ => .pure _
    | .error _ => .pure _

theorem keeps_discoverFrom (levels depth : Nat) (directory front : String) :
    Keeps view (discoverFrom disk levels depth directory front) := by
  induction levels generalizing depth directory front with
  | zero =>
    unfold discoverFrom
    refine (quiet.list directory).bind fun listed => ?_
    split
    · exact .pure _
    · refine (Keeps.filterM (fun _ => quiet.isDirectory _) _).bind fun candidates => ?_
      refine (Keeps.filterM (fun _ => quiet.isDirectory _) _).bind fun withPlugIns => ?_
      exact (Keeps.filterM (fun _ => keeps_holdsBundles quiet _) _).bind fun tooDeep => .pure _
  | succ levels ih =>
    unfold discoverFrom
    refine (quiet.list directory).bind fun listed => ?_
    split
    · exact .pure _
    · refine (Keeps.filterM (fun _ => quiet.isDirectory _) _).bind fun candidates => ?_
      refine (Keeps.filterM (fun _ => quiet.isDirectory _) _).bind fun withPlugIns => ?_
      exact (Keeps.mapM fun candidate _ => ih _ _ _).bind fun inner => .pure _

theorem keeps_discoverBundles (directory : String) :
    Keeps view (discoverBundles disk directory) :=
  (keeps_discoverFrom quiet _ _ directory "").bind fun _ => .pure _

theorem keeps_descriptorPath? (bundle : String) : Keeps view (descriptorPath? disk bundle) := by
  refine (quiet.isFile _).bind fun inside => ?_
  split
  · exact .pure _
  · refine (quiet.isFile _).bind fun outside => ?_
    split <;> exact .pure _

theorem keeps_hasContent (path : String) : Keeps view (hasContent disk path) :=
  (quiet.status path).bind fun
    | .ok _ => .pure _
    | .error _ => .pure _

theorem keeps_executablePath? (bundle : String) (name : Option String) :
    Keeps view (executablePath? disk bundle name) := by
  cases name with
  | none => exact .pure _
  | some name => exact (keeps_hasContent quiet _).bind fun _ => .pure _

theorem keeps_readBundle (candidate : BundleCandidate) :
    Keeps view (readBundle disk candidate) := by
  refine (keeps_descriptorPath? quiet candidate.path).bind fun place => ?_
  split
  · exact .pure _
  · refine (quiet.read _).bind fun bytes => ?_
    split
    · exact .pure _
    · split
      · exact .pure _
      · exact (keeps_executablePath? quiet _ _).bind fun _ => .pure _

theorem keeps_inspect (candidate : BundleCandidate) : Keeps view (inspect disk candidate) := by
  refine (keeps_readBundle quiet candidate).bind fun result => ?_
  split <;> exact .pure _

/-- Whatever jobs are in the queue and in whichever order they end. -/
theorem keeps_runJobs (followLinks : Bool) (schedule : Schedule) (ended : Nat) (jobs : List Job) :
    Keeps view (runJobs disk followLinks schedule ended jobs) := by
  fun_induction runJobs disk followLinks schedule ended jobs with
  | case1 ended jobs waiting place inside others category directory chosen ih =>
    exact (keeps_findFiles quiet _ _ _).bind fun found => ih.bind fun results => .pure _
  | case2 ended jobs waiting place inside others number candidate chosen ih =>
    exact (keeps_inspect quiet _).bind fun inspected => ih.bind fun results => .pure _
  | case3 ended jobs waiting place inside others directory chosen ih =>
    exact (keeps_discoverBundles quiet _).bind fun found => (ih found).bind fun results => .pure _
  | case4 => exact .pure _

theorem keeps_isComplete (root : String) : Keeps view (isComplete disk root) :=
  Keeps.allM (fun _ => quiet.isDirectory _) _

theorem keeps_resolveRoot (root : String) : Keeps view (resolveRoot disk root) := by
  refine (keeps_isComplete quiet root).bind fun complete => ?_
  split
  · exact .pure _
  · refine (keeps_isComplete quiet _).bind fun nested => ?_
    split <;> exact .pure _

theorem keeps_checkRoot (root : String) : Keeps view (checkRoot disk root) := by
  refine (quiet.canonical root).bind fun place => ?_
  split
  · exact .pure _
  · refine (quiet.isDirectory _).bind fun directory => ?_
    split
    · exact .pure _
    · refine (quiet.list _).bind fun listed => ?_
      split <;> exact .pure _

end Scan

/-- A scan changes nothing that reading does not change, however it ends. -/
theorem keeps_scan (quiet : disk.Quiet view) (options : ScanOptions) (root : String) :
    Keeps view (scan disk options root) := by
  refine (Scan.keeps_checkRoot quiet root).bind fun checked => ?_
  split
  · exact .pure _
  · split
    · exact .pure _
    · refine (Scan.keeps_resolveRoot quiet _).bind fun place => ?_
      refine (Keeps.filterM (fun _ => quiet.isDirectory _) _).bind fun present => ?_
      exact (Scan.keeps_runJobs quiet _ _ _ _).bind fun results => .pure _

end BootSnapshot
