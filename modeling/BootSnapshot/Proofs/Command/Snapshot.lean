import Mathlib
import BootSnapshot.Proofs.Command.Save

/-!
# Snapshots are transactions

A snapshot reads its document, scans, merges, and only then saves. Until it saves it has changed no
file, so that a run which fails, is a dry run or has nothing to write leaves the destination as it
was, and a run which reports the destination as written leaves the merged document there.

A document other than the destination is safe as long as it is neither of the two files that a save
puts beside the destination.
-/

set_option autoImplicit false

namespace BootSnapshot

/-- Where a snapshot goes: without an output it is the document itself. -/
def SnapshotRequest.destination (request : SnapshotRequest) : String :=
  request.output.getD request.document

def SnapshotRequest.mode (request : SnapshotRequest) (settings : Settings) : Merge.Mode :=
  if request.clean then .clean else settings.snapshot.defaultMode

def SnapshotRequest.place (request : SnapshotRequest) : String :=
  request.directory.getD (Command.documentDirectory request.document)

namespace Command

variable {σ ε α : Type}

namespace Ends

variable {post : Except ε α → σ → Prop} {state : σ}

theorem of_run {steps : ExceptT ε (StateM σ) α} {result : Except ε α} {after : σ}
    (ran : steps.run.run state = (result, after)) (holds : post result after) :
    Ends steps state post := by
  rwa [Ends, ran]

theorem throw {error : ε} (holds : post (.error error) state) :
    Ends (MonadExcept.throw error : ExceptT ε (StateM σ) α) state post := holds

end Ends

theorem ends_lift {ε : Type} {wrap : ε → CommandError} {result : Except ε α} {state : σ}
    {post : Except CommandError α → σ → Prop}
    (done : ∀ value, result = .ok value → post (.ok value) state)
    (failed : ∀ error, post (.error (wrap error)) state) :
    Ends (lift wrap result) state post := by
  cases result with
  | error error => exact failed error
  | ok value => exact done value rfl

section Reading

variable {storage : Storage (StateM σ)} {files : σ → Files} (flat : storage.IsFlat files)
include flat

theorem ends_read (label path : String) {state : σ}
    {post : Except CommandError (List UInt8) → σ → Prop}
    (done : ∀ bytes after, files after = files state → files state path = some bytes →
      post (.ok bytes) after)
    (failed : ∀ error after, files after = files state → post (.error error) after) :
    Ends (attempt label (storage.read path)) state post := by
  have kept : files ((storage.read path).run state).2 = files state := flat.quiet.read path state
  refine ends_attempt (fun bytes after ended => ?_) fun error after ended => ?_
  · have held := flat.read path state bytes
    rw [ended] at kept held
    exact done bytes after kept (held rfl)
  · rw [ended] at kept
    exact failed _ after kept

/-- A document that was loaded is the content of its file. -/
theorem ends_load (path : String) {state : σ}
    {post : Except CommandError (Document × PropertyList.Format) → σ → Prop}
    (done : ∀ bytes document after, files after = files state → files state path = some bytes →
      Document.read path bytes = .ok document →
      post (.ok (document, PropertyList.Format.ofBytes bytes)) after)
    (failed : ∀ error after, files after = files state → post (.error error) after) :
    Ends (load storage path) state post := by
  refine Ends.bind (ends_read flat path path (fun bytes after same content => ?_) failed)
  refine Ends.bind (ends_lift (fun document parsed => ?_) fun error => ?_)
  · exact done bytes document after same content parsed
  · exact failed _ after same

theorem ends_scanAll (settings : Settings) (directory : String) {state : σ}
    {post : Except CommandError ScanReport → σ → Prop}
    (done : ∀ report after, files after = files state →
      ((scanAll storage settings directory).run.run state).1 = .ok report →
      post (.ok report) after)
    (failed : ∀ error after, files after = files state → post (.error error) after) :
    Ends (scanAll storage settings directory) state post := by
  have kept : Ends (scanAll storage settings directory) state
      fun _ after => files after = files state := by
    unfold scanAll
    refine Ends.bind (Ends.lift (ends_lift (fun _ _ => ?_) fun _ => ?_))
    · exact keeps_scan flat.quiet _ directory state
    · exact keeps_scan flat.quiet _ directory state
  unfold Ends at kept ⊢
  revert kept done
  rcases (scanAll storage settings directory).run.run state with ⟨error | report, after⟩
  · exact fun _ => failed error after
  · exact fun done kept => done report after kept rfl

/-- A file is the same as itself, also where it cannot be asked for its place. -/
theorem sameFile_self (path : String) (state : σ) :
    ((storage.sameFile path path).run state).1 = true := by
  have asked := flat.quiet.canonical path state
  have law := flat.canonical path state ((storage.canonical path).run state).2 asked.symm
  unfold Disk.sameFile
  rw [StateT.run_bind]
  rcases first : (storage.canonical path).run state with ⟨one, between⟩
  change (StateT.run (storage.canonical path >>= _) between).1 = true
  rw [StateT.run_bind]
  rw [first] at law
  rcases second : (storage.canonical path).run between with ⟨other, after⟩
  rw [second] at law
  cases one with
  | error error => exact decide_eq_true rfl
  | ok one =>
    cases other with
    | error error => exact decide_eq_true rfl
    | ok other => exact decide_eq_true (law one other rfl rfl)

end Reading

/-- What a run that writes at most one file does to files. -/
structure Transaction (keepsOld dryRun : Bool) (destination : String) (before after : Files)
    (fails : Prop) : Prop where
  others :
    Files.AgreeBut [destination, backupPath destination, stagingPath destination] after before
  failed : fails → after destination = before destination
  dry : dryRun = true → after = before
  uncopied : keepsOld = false ∨ before destination = none →
    after (backupPath destination) = before (backupPath destination)

namespace Transaction

variable {keepsOld dryRun : Bool} {destination : String} {before after : Files} {fails : Prop}

/-- A run that changes no file is a transaction, however it ends. -/
theorem of_same (same : after = before) :
    Transaction keepsOld dryRun destination before after fails where
  others := same ▸ Files.AgreeBut.refl _ _
  failed _ := congrFun same destination
  dry _ := same
  uncopied _ := congrFun same (backupPath destination)

theorem imp {fewer : Prop} (ends : Transaction keepsOld dryRun destination before after fails)
    (weaken : fewer → fails) : Transaction keepsOld dryRun destination before after fewer :=
  { ends with failed := fun failed => ends.failed (weaken failed) }

end Transaction

/-- A save that is no dry run is a transaction. -/
theorem SaveEnds.transaction {keepsOld dryRun : Bool} {path : String} {bytes : List UInt8}
    {before after : Files} {result : Except CommandError (Option String)} {fails : Prop}
    (saved : SaveEnds keepsOld path bytes before after result) (wet : dryRun ≠ true)
    (told : fails → ∃ error, result = .error error) :
    Transaction keepsOld dryRun path before after fails where
  others := saved.others
  failed fails := by
    obtain ⟨error, failed⟩ := told fails
    exact saved.failed error failed
  dry dry := absurd dry wet
  uncopied := saved.uncopied

/-- The content is the merge of the document, as its file was before, with the report of a scan of
the same files, in the form that the document was read in. -/
def IsMerge (storage : Storage (StateM σ)) (files : σ → Files) (settings : Settings)
    (request : SnapshotRequest) (before : Files) (changes : Merge.ChangeLog)
    (content : List UInt8) : Prop :=
  ∃ source document report scanned merged,
    before request.document = some source ∧
    Document.read request.document source = .ok document ∧
    files scanned = before ∧
    ((scanAll storage settings request.place).run.run scanned).1 = .ok report ∧
    Merge.mergeTargets document report.entries (request.mode settings)
      (report.scanned.map Target.ofCategory) = .ok (merged, changes) ∧
    content = merged.write (PropertyList.Format.ofBytes source)

/-- What the summary of a snapshot tells is true; the content is what there was to write. -/
structure Truthful (request : SnapshotRequest) (before after : Files) (content : List UInt8)
    (summary : SnapshotSummary) : Prop where
  dryRun : summary.dryRun = request.dryRun
  /-- A dry run writes nothing, nor does a run without changes over its own document. -/
  idle : request.dryRun = true ∨ summary.changes = [] ∧ request.destination = request.document →
    summary.written = none
  /-- Only these two leave the content unwritten. -/
  unwritten : summary.written = none →
    (request.dryRun = true ∨ summary.changes = []) ∧ summary.backup = none ∧ after = before
  written : ∀ path, summary.written = some path →
    path = request.destination ∧ after path = some content ∧ after (stagingPath path) = none
  backup : ∀ copy, summary.backup = some copy →
    copy = backupPath request.destination ∧ before request.destination ≠ none ∧
      after copy = before request.destination

/-- A run is a transaction, and what it tells at its end is so. -/
structure Accounted (settings : Settings) (request : SnapshotRequest) (before after : Files)
    (claims : α → Prop) (result : Except ε α) : Prop where
  transaction : Transaction settings.snapshot.backupOnSave request.dryRun request.destination
    before after (∃ error, result = .error error)
  told : ∀ value, result = .ok value → claims value

theorem Accounted.of_error {settings : Settings} {request : SnapshotRequest} {before after : Files}
    {claims : α → Prop} {error : ε} (same : after = before) :
    Accounted settings request before after claims (.error error) :=
  ⟨.of_same same, fun _ done => (nomatch done)⟩

/-- What the output of a snapshot tells: that the user did not want it, or a true summary of it. -/
def Tells (host : Host (StateM σ)) (files : σ → Files) (settings : Settings) (format : String)
    (request : SnapshotRequest) (before after : Files) (output : CommandOutput) : Prop :=
  output.rendered = "Snapshot cancelled" ∧ after = before ∨
  ∃ summary content time,
    output.rendered =
      render format (Report.snapshotText summary) (Report.snapshotJson time summary) ∧
    IsMerge host.storage files settings request before summary.changes content ∧
    Truthful request before after content summary

section Update

variable {storage : Storage (StateM σ)} {files : σ → Files} (flat : storage.IsFlat files)
include flat

theorem ends_updateDocument (settings : Settings) (request : SnapshotRequest) (state : σ) :
    Ends (updateDocument storage settings (request.mode settings) request) state
      fun result after => Accounted settings request (files state) (files after)
        (fun summary => ∃ content,
          IsMerge storage files settings request (files state) summary.changes content ∧
          Truthful request (files state) (files after) content summary) result := by
  unfold updateDocument
  refine Ends.bind (ends_load flat _ (fun source document loaded same held parsed => ?_)
    fun _ _ same => .of_error same)
  refine Ends.bind (ends_scanAll flat settings _ (fun report scanned same' reported => ?_)
    fun _ _ same' => .of_error (same'.trans same))
  refine Ends.bind (ends_lift (fun merge merging => ?_) fun _ => .of_error (same'.trans same))
  obtain ⟨merged, changes⟩ := merge
  have isMerge : IsMerge storage files settings request (files state) changes
      (merged.write (PropertyList.Format.ofBytes source)) :=
    ⟨source, document, report, loaded, merged, held, parsed, same, reported, merging, rfl⟩
  have kept : files ((storage.sameFile (request.output.getD request.document)
      request.document).run scanned).2 = files state :=
    (flat.quiet.sameFile _ _ scanned).trans (same'.trans same)
  have itself : request.destination = request.document →
      ((storage.sameFile (request.output.getD request.document) request.document).run
        scanned).1 = true := by
    intro same
    change ((storage.sameFile request.destination request.document).run scanned).1 = true
    rw [same]
    exact sameFile_self flat _ _
  refine Ends.bind (Ends.lift ?_)
  revert kept itself
  rcases (storage.sameFile (request.output.getD request.document) request.document).run scanned
    with ⟨isSame, asked⟩
  intro kept itself
  dsimp only at kept itself ⊢
  split
  · rename_i nothing
    simp only [Bool.or_eq_true, Bool.and_eq_true, List.isEmpty_iff] at nothing
    refine Ends.pure ⟨.of_same kept, ?_⟩
    rintro _ ⟨⟩
    have idle := nothing.imp_right And.left
    refine ⟨_, isMerge, ⟨rfl, fun _ => rfl, fun _ => ⟨idle, rfl, kept⟩, ?_, ?_⟩⟩
    · rintro _ ⟨⟩
    · rintro _ ⟨⟩
  · rename_i something
    simp only [Bool.or_eq_true, Bool.and_eq_true, List.isEmpty_iff, not_or, not_and] at something
    have saving := ends_save flat settings.snapshot.backupOnSave request.destination
      (merged.write (PropertyList.Format.ofBytes source)) asked
    rw [kept] at saving
    refine Ends.bind (saving.imp fun result after saved => ?_)
    cases result with
    | error error =>
      exact ⟨saved.transaction something.1 fun _ => ⟨error, rfl⟩, fun _ done => (nomatch done)⟩
    | ok backup =>
      refine Ends.pure ⟨saved.transaction something.1 fun ⟨_, failed⟩ => (nomatch failed), ?_⟩
      rintro _ ⟨⟩
      obtain ⟨written, gone, copied⟩ := saved.saved backup rfl
      refine ⟨_, isMerge, ⟨rfl, ?_, ?_, ?_, copied⟩⟩
      · rintro (dry | ⟨empty, own⟩)
        · exact absurd dry something.1
        · exact absurd (itself own) (something.2 empty)
      · rintro ⟨⟩
      · rintro _ ⟨⟩
        exact ⟨rfl, written, gone⟩

end Update

theorem ends_takeSnapshot {host : Host (StateM σ)} {files : σ → Files} (flat : host.IsFlat files)
    (settings : Settings) (format : String) (request : SnapshotRequest) (state : σ) :
    Ends (takeSnapshot host settings format request) state fun result after =>
      Accounted settings request (files state) (files after)
        (Tells host files settings format request (files state) (files after)) result := by
  unfold takeSnapshot
  have update {asked : σ} (same : files asked = files state) :
      Ends (do
        let summary ← updateDocument host.storage settings (request.mode settings) request
        let time ← host.now
        return {
          rendered := render format (Report.snapshotText summary)
            (Report.snapshotJson time summary) })
        asked fun result after => Accounted settings request (files state) (files after)
          (Tells host files settings format request (files state) (files after)) result := by
    have updating := ends_updateDocument flat.toIsFlat settings request asked
    rw [same] at updating
    refine Ends.bind (updating.imp fun result updated ends => ?_)
    cases result with
    | error error =>
      exact ⟨ends.transaction.imp fun _ => ⟨error, rfl⟩, fun _ done => (nomatch done)⟩
    | ok summary =>
      obtain ⟨content, isMerge, truthful⟩ := ends.told summary rfl
      have kept := flat.now updated
      refine Ends.bind (Ends.lift (Ends.pure ?_))
      rw [kept]
      refine ⟨ends.transaction.imp fun ⟨_, failed⟩ => (nomatch failed), ?_⟩
      rintro _ ⟨⟩
      exact Or.inr ⟨summary, content, _, rfl, isMerge, truthful⟩
  dsimp only
  rw [← SnapshotRequest.mode]
  split
  · have kept := flat.confirm (rebuildQuestion request.document) state
    refine Ends.bind (Ends.lift ?_)
    revert kept
    rcases (host.confirm (rebuildQuestion request.document)).run state with ⟨answer, asked⟩
    intro kept
    dsimp only at kept ⊢
    split
    · exact Ends.bind (Ends.throw (.of_error kept))
    · refine Ends.pure ⟨.of_same kept, ?_⟩
      rintro _ ⟨⟩
      exact Or.inl ⟨rfl, kept⟩
    · exact update kept
  · exact update rfl

/-- Where nothing is to be confirmed, a snapshot only updates the document and tells of it. -/
theorem takeSnapshot_of_additive {host : Host (StateM σ)} {settings : Settings}
    {request : SnapshotRequest} (additive : request.mode settings ≠ .clean) (format : String) :
    takeSnapshot host settings format request = do
      let summary ← updateDocument host.storage settings (request.mode settings) request
      let time ← host.now
      return {
        rendered := render format (Report.snapshotText summary)
          (Report.snapshotJson time summary) } := by
  unfold takeSnapshot
  dsimp only
  rw [← SnapshotRequest.mode, decide_eq_false additive]
  rfl

theorem files_takeSnapshot {host : Host (StateM σ)} {files : σ → Files} (flat : host.IsFlat files)
    (settings : Settings) (format : String) (request : SnapshotRequest) (state : σ)
    (additive : request.mode settings ≠ .clean) :
    files ((takeSnapshot host settings format request).run.run state).2 =
      files ((updateDocument host.storage settings (request.mode settings) request).run.run
        state).2 := by
  rw [takeSnapshot_of_additive additive]
  simp only [ExceptT.run_bind, StateT.run_bind]
  rcases (updateDocument host.storage settings (request.mode settings) request).run.run state
    with ⟨_ | summary, updated⟩
  · rfl
  · exact flat.now updated

/-- An update whose steps all succeed, and that has something to write, is the save of what the merge
comes to. -/
theorem ends_updateDocument_of_saved {storage : Storage (StateM σ)} {settings : Settings}
    {mode : Merge.Mode} {request : SnapshotRequest} {state loaded scanned asked after : σ}
    {document merged : Document} {form : PropertyList.Format} {report : ScanReport}
    {changes : Merge.ChangeLog} {backup : Option String}
    {post : Except CommandError SnapshotSummary → σ → Prop}
    (loads : (load storage request.document).run.run state = (.ok (document, form), loaded))
    (scans : (scanAll storage settings request.place).run.run loaded = (.ok report, scanned))
    (merges : Merge.mergeTargets document report.entries mode
      (report.scanned.map Target.ofCategory) = .ok (merged, changes))
    (asks : (storage.sameFile request.destination request.document).run scanned = (false, asked))
    (wet : request.dryRun = false)
    (saves : (save storage settings.snapshot.backupOnSave request.destination
      (merged.write form)).run.run asked = (.ok backup, after))
    (holds : ∀ summary : SnapshotSummary, summary.changes = changes →
      summary.written = some request.destination → summary.backup = backup →
        post (.ok summary) after) :
    Ends (updateDocument storage settings mode request) state post := by
  have merging : (lift (m := StateM σ) CommandError.merge (Merge.mergeTargets document
      report.entries mode (report.scanned.map Target.ofCategory))).run.run scanned =
        (.ok (merged, changes), scanned) := by
    rw [merges]
    rfl
  have asking : (ExceptT.lift (ε := CommandError)
      (storage.sameFile request.destination request.document)).run.run scanned =
        (.ok false, asked) := by
    have asked := congrArg (fun outcome => (Except.ok (ε := CommandError) outcome.1, outcome.2)) asks
    exact asked
  apply Ends.bind (Ends.of_run loads _)
  apply Ends.bind (Ends.of_run scans _)
  apply Ends.bind (Ends.of_run merging _)
  apply Ends.bind (Ends.of_run asking _)
  dsimp only
  rw [wet, Bool.and_false, Bool.or_false, if_neg Bool.false_ne_true]
  apply Ends.bind (Ends.of_run saves _)
  exact Ends.pure (holds _ rfl rfl rfl)

/-- For every host, request and state: a run that fails leaves the destination as it was, a dry run
or one without changes over its own document leaves every file as it was, a run that reports the
destination as written has put the merged document there, and in no case has a file changed but the
destination and the two beside it. -/
theorem snapshot_is_transactional {host : Host (StateM σ)} {files : σ → Files}
    (flat : host.IsFlat files) (settings : Settings) (format : String) (request : SnapshotRequest)
    (state : σ) :
    let (result, after) := (run host settings format (.snapshot request)).run.run state
    Accounted settings request (files state) (files after)
      (Tells host files settings format request (files state) (files after)) result :=
  ends_takeSnapshot flat settings format request state

def crowdedShelf : Shelf where
  files path :=
    if path = "config.plist" then some "<dict />".toUTF8.toList
    else if path = "other.plist" then some [1]
    else none
  room := 1

/-- A document that lists a driver, beside an empty directory of drivers. -/
def orderlyShelf : Shelf where
  files path :=
    if path = "config.plist" then
      some ("<dict><key>UEFI</key><dict><key>Drivers</key><array><string>A.efi</string>" ++
        "</array></dict></dict>").toUTF8.toList
    else if path = "other.plist" then some [1]
    else none
  room := 2
  directories := [".", "./Drivers"]

def elsewhereRequest : SnapshotRequest :=
  { document := "config.plist", output := some "other.plist" }

def driverDocument (drivers : List Node) : Document :=
  ⟨⟨[("UEFI", .dictionary ⟨[("Drivers", .sequence drivers)]⟩)]⟩⟩

set_option maxRecDepth 4000 in
theorem mergeTargets_driverDocument :
    Merge.mergeTargets (driverDocument [.ofText "A.efi"]) [] .additive [.uefiDrivers] =
      .ok (driverDocument [], [⟨.uefiDrivers, .staleRemoved, "A.efi", 0⟩]) := by
  cbv

def orderlyReport : ScanReport where
  root := "."
  scanned := [.driver]
  entries := []
  skipped := [.acpi, .kext, .tool].map Scan.missingDirectory

theorem load_orderlyShelf :
    (load Shelf.storage elsewhereRequest.document).run.run orderlyShelf =
      (.ok (driverDocument [.ofText "A.efi"], .xml), orderlyShelf) := by
  cbv

theorem scanAll_orderlyShelf :
    (scanAll Shelf.storage {} elsewhereRequest.place).run.run orderlyShelf =
      (.ok orderlyReport, orderlyShelf) := by
  cbv

/-- There is room for the copy and the new content. -/
theorem save_orderlyShelf (content : List UInt8) :
    ∃ after : Shelf, (save Shelf.storage true "other.plist" content).run.run orderlyShelf =
        (.ok (some "other.plist.bak"), after) ∧
      after.files "other.plist" = some content ∧ after.files "other.plist.bak" = some [1] ∧
      after.files "other.plist.tmp" = none := by
  refine ⟨_, rfl, ?_, ?_, ?_⟩
  · cbv
  · cbv
  · cbv

/-- What a run tells and leaves that has taken the driver out of the document and has saved it
elsewhere. -/
structure SavedElsewhere (summary : SnapshotSummary) (after : Files) : Prop where
  changes : summary.changes = [⟨.uefiDrivers, .staleRemoved, "A.efi", 0⟩]
  written : summary.written = some "other.plist"
  backup : summary.backup = some "other.plist.bak"
  content : after "other.plist" = some ((driverDocument []).write .xml)
  copy : after "other.plist.bak" = some [1]
  staged : after "other.plist.tmp" = none

theorem updateDocument_orderlyShelf :
    Ends (updateDocument Shelf.storage {} .additive elsewhereRequest) orderlyShelf
      fun result after => ∃ summary, result = .ok summary ∧ SavedElsewhere summary after.files := by
  obtain ⟨after, saved, content, copy, staged⟩ :=
    save_orderlyShelf ((driverDocument []).write .xml)
  apply ends_updateDocument_of_saved load_orderlyShelf scanAll_orderlyShelf
    mergeTargets_driverDocument rfl rfl saved
  intro summary changes written backup
  exact ⟨summary, rfl, changes, written, backup, content, copy, staged⟩

theorem takeSnapshot_orderlyShelf :
    Ends (takeSnapshot Shelf.host {} "text" elsewhereRequest) orderlyShelf fun result after =>
      ∃ summary, result = .ok { rendered := Report.snapshotText summary } ∧
        SavedElsewhere summary after.files := by
  rw [takeSnapshot_of_additive (by decide)]
  refine Ends.bind (updateDocument_orderlyShelf.imp ?_)
  rintro _ after ⟨summary, rfl, saved⟩
  exact Ends.bind (Ends.lift (Ends.pure ⟨summary, rfl, saved⟩))

/-- On the one disk there is room for the copy of what the output holds, but not for the new
content; on the other one there is room for both. Either run is a transaction. -/
theorem crowdedShelf_is_transactional :
    Shelf.host.IsFlat Shelf.files ∧
    (let request : SnapshotRequest := { document := "config.plist", output := some "other.plist" }
    let (result, after) := (run Shelf.host {} "text" (.snapshot request)).run.run crowdedShelf
    Accounted {} request crowdedShelf.files after.files
      (Tells Shelf.host Shelf.files {} "text" request crowdedShelf.files after.files) result) ∧
    let (result, after) :=
      (run Shelf.host {} "text" (.snapshot elsewhereRequest)).run.run orderlyShelf
    Accounted {} elsewhereRequest orderlyShelf.files after.files
      (Tells Shelf.host Shelf.files {} "text" elsewhereRequest orderlyShelf.files after.files)
      result ∧
    ∃ summary, result = .ok { rendered := Report.snapshotText summary } ∧
      SavedElsewhere summary after.files := by
  refine ⟨Shelf.host_isFlat, ?_, ?_, takeSnapshot_orderlyShelf⟩
  · exact snapshot_is_transactional Shelf.host_isFlat {} "text" _ crowdedShelf
  · exact snapshot_is_transactional Shelf.host_isFlat {} "text" elsewhereRequest orderlyShelf

/-- A snapshot that goes elsewhere leaves the file of its document alone, however it ends, unless
that file is the one that takes the new content or the copy of the old. -/
theorem snapshot_elsewhere_spares_document {host : Host (StateM σ)} {files : σ → Files}
    (flat : host.IsFlat files) (settings : Settings) (format : String) (request : SnapshotRequest)
    (state : σ) (output : String) (elsewhere : request.output = some output)
    (apart : request.document ≠ output) (unstaged : request.document ≠ stagingPath output)
    (uncopied : request.document = backupPath output →
      settings.snapshot.backupOnSave = false ∨ files state output = none) :
    files ((run host settings format (.snapshot request)).run.run state).2 request.document =
      files state request.document := by
  have transaction := (ends_takeSnapshot flat settings format request state).transaction
  have goes : request.destination = output := by rw [SnapshotRequest.destination, elsewhere]; rfl
  rw [goes] at transaction
  by_cases copy : request.document = backupPath output
  · have same := transaction.uncopied (uncopied copy)
    rw [← copy] at same
    exact same
  · refine transaction.others request.document ?_
    simp [apart, unstaged, copy]

theorem crowdedShelf_spares_document :
    let request : SnapshotRequest := { document := "config.plist", output := some "other.plist" }
    ((run Shelf.host {} "text" (.snapshot request)).run.run crowdedShelf).2.files "config.plist" =
      some "<dict />".toUTF8.toList :=
  snapshot_elsewhere_spares_document Shelf.host_isFlat {} "text" _ crowdedShelf "other.plist" rfl
    (by decide) (by decide) (fun copy => absurd copy (by decide))

/-- A document named like the copy of another file. -/
def siblingShelf : Shelf where
  files path :=
    if path = "config.plist.bak" then some "<dict />".toUTF8.toList
    else if path = "config.plist" then some [1]
    else none
  room := 2

def siblingRequest : SnapshotRequest :=
  { document := "config.plist.bak", output := some "config.plist" }

theorem load_siblingShelf :
    (load Shelf.storage siblingRequest.document).run.run siblingShelf =
      (.ok (⟨⟨[]⟩⟩, .xml), siblingShelf) := by
  cbv

theorem scanAll_siblingShelf :
    (scanAll Shelf.storage {} siblingRequest.place).run.run siblingShelf =
      (.ok ⟨".", [], [], [.acpi, .driver, .kext, .tool].map Scan.missingDirectory⟩, siblingShelf) := by
  cbv

theorem save_siblingShelf (content : List UInt8) :
    ∃ after : Shelf, (save Shelf.storage true "config.plist" content).run.run siblingShelf =
        (.ok (some "config.plist.bak"), after) ∧ after.files "config.plist.bak" = some [1] := by
  refine ⟨_, rfl, ?_⟩
  cbv

/-- The copy of what the output held before takes the place of the document. -/
theorem siblingShelf_loses_document :
    Shelf.host.IsFlat Shelf.files ∧ siblingRequest.output = some "config.plist" ∧
    siblingRequest.document ≠ "config.plist" ∧
    siblingShelf.files siblingRequest.document = some "<dict />".toUTF8.toList ∧
    ((run Shelf.host {} "text" (.snapshot siblingRequest)).run.run siblingShelf).2.files
      siblingRequest.document = some [1] := by
  refine ⟨Shelf.host_isFlat, rfl, by decide, rfl, ?_⟩
  obtain ⟨after, saved, copied⟩ := save_siblingShelf (Document.write .xml ⟨⟨[]⟩⟩)
  have updated := files_takeSnapshot Shelf.host_isFlat {} "text" siblingRequest siblingShelf
    (by decide)
  have left : Ends (updateDocument Shelf.storage {} .additive siblingRequest) siblingShelf
      fun _ after => after.files "config.plist.bak" = some [1] := by
    apply ends_updateDocument_of_saved load_siblingShelf scanAll_siblingShelf rfl rfl rfl saved
    intro summary _ _ _
    exact copied
  exact (congrFun updated _).trans left

end Command
end BootSnapshot
