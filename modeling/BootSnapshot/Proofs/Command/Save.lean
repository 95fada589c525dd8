import BootSnapshot.Proofs.FileSystem.Flat

set_option autoImplicit false

namespace BootSnapshot.Command

variable {σ ε α β : Type}

/-- Steps that begin in a state end with a result and in a state of which the condition holds. -/
def Ends (steps : ExceptT ε (StateM σ) α) (state : σ) (post : Except ε α → σ → Prop) : Prop :=
  post (steps.run.run state).1 (steps.run.run state).2

namespace Ends

variable {steps : ExceptT ε (StateM σ) α} {state : σ} {post : Except ε α → σ → Prop}

theorem pure {value : α} (holds : post (.ok value) state) :
    Ends (Pure.pure value : ExceptT ε (StateM σ) α) state post := holds

theorem bind {next : α → ExceptT ε (StateM σ) β} {post : Except ε β → σ → Prop}
    (first : Ends steps state fun result between =>
      match result with
      | .ok value => Ends (next value) between post
      | .error error => post (.error error) between) :
    Ends (steps >>= next) state post := by
  unfold Ends at *
  simp only [ExceptT.run_bind, StateT.run_bind]
  revert first
  rcases steps.run.run state with ⟨_ | _, between⟩
  · exact id
  · exact id

theorem imp {weaker : Except ε α → σ → Prop} (ends : Ends steps state post)
    (weaken : ∀ result after, post result after → weaker result after) :
    Ends steps state weaker := weaken _ _ ends

/-- A step that cannot fail. -/
theorem lift {operation : StateM σ α}
    (holds : post (.ok (operation.run state).1) (operation.run state).2) :
    Ends (liftM operation : ExceptT ε (StateM σ) α) state post := holds

end Ends

theorem append_ne_self (path suffix : String) (some : suffix.toList ≠ []) :
    path ++ suffix ≠ path := by
  intro same
  have chars := congrArg String.toList same
  rw [String.toList_append, List.append_right_eq_self] at chars
  exact some chars

theorem backupPath_ne (path : String) : backupPath path ≠ path :=
  append_ne_self path ".bak" (by decide)

theorem stagingPath_ne (path : String) : stagingPath path ≠ path :=
  append_ne_self path ".tmp" (by decide)

theorem backupPath_ne_stagingPath (path : String) : backupPath path ≠ stagingPath path := by
  intro same
  have chars := congrArg String.toList same
  rw [backupPath, stagingPath, String.toList_append, String.toList_append,
    List.append_cancel_left_eq] at chars
  revert chars
  decide

/-- What saving at a path does to files: it ends with the name of the copy or with an error. -/
structure SaveEnds (keepsOld : Bool) (path : String) (bytes : List UInt8) (before after : Files)
    (result : Except CommandError (Option String)) : Prop where
  others : Files.AgreeBut [path, backupPath path, stagingPath path] after before
  /-- The file for the copy stays if there is nothing to copy. -/
  uncopied : keepsOld = false ∨ before path = none →
    after (backupPath path) = before (backupPath path)
  failed : ∀ error, result = .error error → after path = before path
  saved : ∀ backup, result = .ok backup → after path = some bytes ∧
    after (stagingPath path) = none ∧
    ∀ name, backup = some name →
      name = backupPath path ∧ before path ≠ none ∧ after name = before path

/-- An operation ends with what the system answers, told with a path if that is an error. -/
theorem ends_attempt {label : String} {operation : StateM σ (Except OsError α)} {state : σ}
    {post : Except CommandError α → σ → Prop}
    (done : ∀ value after, operation.run state = (.ok value, after) → post (.ok value) after)
    (failed : ∀ error after, operation.run state = (.error error, after) →
      post (.error (.file label error)) after) :
    Ends (attempt label operation) state post := by
  change post ((operation.run state).1.mapError (.file label)) (operation.run state).2
  rcases ended : operation.run state with ⟨error | value, after⟩
  · exact failed error after ended
  · exact done value after ended

section Save

variable {storage : Storage (StateM σ)} {files : σ → Files} (flat : storage.IsFlat files)
  {state : σ} {post : Except CommandError Unit → σ → Prop}
include flat

theorem ends_write (label path : String) (bytes : List UInt8)
    (done : ∀ after, files after = Function.update (files state) path (some bytes) →
      post (.ok ()) after)
    (failed : ∀ error after, Files.AgreeBut [path] (files after) (files state) →
      post (.error error) after) :
    Ends (attempt label (storage.write path bytes)) state post := by
  have law := flat.write path bytes state
  refine ends_attempt (fun _ after ended => ?_) fun error after ended => ?_
  · rw [ended] at law
    exact done after law
  · rw [ended] at law
    exact failed _ after law

theorem ends_copy (label : String) {source target : String} (apart : source ≠ target)
    (done : ∀ after, files state source ≠ none →
      files after = Function.update (files state) target (files state source) →
      post (.ok ()) after)
    (failed : ∀ error after, Files.AgreeBut [target] (files after) (files state) →
      post (.error error) after) :
    Ends (attempt label (storage.copy source target)) state post := by
  have law := flat.copy source target state apart
  refine ends_attempt (fun _ after ended => ?_) fun error after ended => ?_
  · rw [ended] at law
    exact done after law.1 law.2
  · rw [ended] at law
    exact failed _ after law

theorem ends_rename (label : String) {source target : String} (apart : source ≠ target)
    (done : ∀ after, files after =
        Function.update (Function.update (files state) target (files state source)) source none →
      post (.ok ()) after)
    (failed : ∀ error after, files after = files state → post (.error error) after) :
    Ends (attempt label (storage.rename source target)) state post := by
  have law := flat.rename source target state apart
  refine ends_attempt (fun _ after ended => ?_) fun error after ended => ?_
  · rw [ended] at law
    exact done after law
  · rw [ended] at law
    exact failed _ after law

theorem not_isFile {path : String} (absent : files state path = none) :
    ((storage.isFile path).run state).1 = false := by
  have law := flat.status path state
  unfold Disk.isFile
  rw [StateT.run_bind]
  revert law
  rcases (storage.status path).run state with ⟨status, asked⟩
  intro law
  cases status with
  | error error => rfl
  | ok found => exact decide_eq_false fun file => law found rfl file absent

/-- The last two steps: the new content is written beside the destination and takes its place. -/
theorem ends_replace (path : String) (bytes : List UInt8) (backup : Option String)
    {state : σ} {post : Except CommandError (Option String) → σ → Prop}
    (done : ∀ after, Files.AgreeBut [path, stagingPath path] (files after) (files state) →
      files after path = some bytes → files after (stagingPath path) = none →
      post (.ok backup) after)
    (failed : ∀ error after, Files.AgreeBut [stagingPath path] (files after) (files state) →
      post (.error error) after) :
    Ends (do
      attempt (stagingPath path) (storage.write (stagingPath path) bytes)
      attempt path (storage.rename (stagingPath path) path)
      return backup) state post := by
  have apart := stagingPath_ne path
  refine Ends.bind (ends_write flat _ _ _ (fun written content => ?_) failed)
  have staged : Files.AgreeBut [stagingPath path] (files written) (files state) :=
    content ▸ Files.AgreeBut.update _ _ _
  refine Ends.bind (ends_rename flat _ apart (fun after moved => ?_) fun error after same => ?_)
  · refine done after (fun other outside => ?_) ?_ ?_
    · simp only [List.mem_cons, List.not_mem_nil, or_false, not_or] at outside
      rw [moved, Function.update_of_ne outside.2, Function.update_of_ne outside.1]
      exact staged other fun member => outside.2 (List.mem_singleton.mp member)
    · rw [moved, Function.update_of_ne (Ne.symm apart), Function.update_self, content,
        Function.update_self]
    · rw [moved, Function.update_self]
  · exact failed error after (same ▸ staged)

/-- Once the old content is copied, or need not be, the last two steps end a save. -/
theorem ends_replace_of_copied {keepsOld : Bool} {path : String} (bytes : List UInt8)
    {backup : Option String} {before : Files} {state : σ}
    (agree : Files.AgreeBut [backupPath path] (files state) before)
    (uncopied : keepsOld = false ∨ before path = none →
      files state (backupPath path) = before (backupPath path))
    (copied : ∀ name, backup = some name →
      name = backupPath path ∧ before path ≠ none ∧ files state name = before path) :
    Ends (do
      attempt (stagingPath path) (storage.write (stagingPath path) bytes)
      attempt path (storage.rename (stagingPath path) path)
      return backup) state fun result after =>
        SaveEnds keepsOld path bytes before (files after) result := by
  have copyApart := backupPath_ne path
  have stagingApart := stagingPath_ne path
  have besideApart := backupPath_ne_stagingPath path
  refine ends_replace flat path bytes backup (fun after others written gone => ?_)
    fun error after others => ?_
  · have copy : files after (backupPath path) = files state (backupPath path) :=
      others _ (by simp [copyApart, besideApart])
    refine ⟨(others.mono ?_).trans (agree.mono ?_), fun none => copy.trans (uncopied none),
      fun _ failed => (nomatch failed), fun _ done => ⟨written, gone, fun name told => ?_⟩⟩
    · simp
    · simp
    · obtain rfl := Except.ok.inj done
      obtain ⟨rfl, present, held⟩ := copied name told
      exact ⟨rfl, present, copy.trans held⟩
  · have copy : files after (backupPath path) = files state (backupPath path) :=
      others _ (by simp [besideApart])
    have own : files after path = files state path := others _ (by simp [Ne.symm stagingApart])
    refine ⟨(others.mono ?_).trans (agree.mono ?_), fun none => copy.trans (uncopied none),
      fun _ _ => own.trans (agree _ ?_), fun _ done => (nomatch done)⟩
    · simp
    · simp
    · simp [Ne.symm copyApart]

/-- Whichever step of a save fails, the destination is untouched or wholly replaced. -/
theorem ends_save (keepsOld : Bool) (path : String) (bytes : List UInt8) (state : σ) :
    Ends (save storage keepsOld path bytes) state fun result after =>
      SaveEnds keepsOld path bytes (files state) (files after) result := by
  have quiet : files ((storage.isFile path).run state).2 = files state :=
    flat.quiet.isFile path state
  have absent : files state path = none → ((storage.isFile path).run state).1 = false :=
    not_isFile flat
  unfold save
  refine Ends.bind (Ends.lift ?_)
  revert quiet absent
  rcases (storage.isFile path).run state with ⟨isFile, asked⟩
  intro quiet absent
  simp only at quiet absent ⊢
  rw [← quiet] at absent ⊢
  have copyApart := backupPath_ne path
  by_cases copies : (keepsOld && isFile) = true
  · obtain ⟨keeps, file⟩ := Bool.and_eq_true_iff.mp copies
    have nothing : ¬ (keepsOld = false ∨ files asked path = none) := by
      rintro (never | missing)
      · exact Bool.false_ne_true (never.symm.trans keeps)
      · exact Bool.false_ne_true ((absent missing).symm.trans file)
    rw [if_pos copies]
    refine Ends.bind (ends_copy flat _ (Ne.symm copyApart) (fun copied present content => ?_)
      fun error after agree => ?_)
    · refine ends_replace_of_copied flat bytes (content ▸ Files.AgreeBut.update _ _ _)
        (fun none => absurd none nothing) ?_
      rintro name ⟨⟩
      exact ⟨rfl, present, by rw [content, Function.update_self]⟩
    · refine ⟨agree.mono ?_, fun none => absurd none nothing, fun _ _ => agree _ ?_,
        fun _ done => (nomatch done)⟩
      · simp
      · simp [Ne.symm copyApart]
  · rw [if_neg copies]
    exact ends_replace_of_copied flat bytes (.refl _ _) (fun _ => rfl) fun _ none => (nomatch none)

end Save

end BootSnapshot.Command
