import BootSnapshot.Finding.Report
import BootSnapshot.Proofs.Finding.Place

set_option autoImplicit false

namespace BootSnapshot

open Document

namespace ValidationReport

def ofSeverity (report : ValidationReport) : Severity → List Finding
  | .error => report.errors
  | .warning => report.warnings

theorem ofSeverity_push (report : ValidationReport) (finding : Finding) (severity : Severity) :
    (report.push finding).ofSeverity severity =
      report.ofSeverity severity ++ [finding].filter (·.severity = severity) := by
  unfold push
  cases own : finding.severity <;> cases severity <;>
    simp only [ofSeverity, List.filter_cons, List.filter_nil, own, decide_true, reduceCtorEq,
      decide_false, Bool.false_eq_true, ↓reduceIte, List.append_nil]

theorem ofSeverity_extend (report : ValidationReport) (findings : List Finding)
    (severity : Severity) :
    (report.extend findings).ofSeverity severity =
      report.ofSeverity severity ++ findings.filter (·.severity = severity) := by
  induction findings generalizing report with
  | nil => exact (List.append_nil _).symm
  | cons finding rest ih =>
    have pushed : report.extend (finding :: rest) = (report.push finding).extend rest := rfl
    rw [pushed, ih, ofSeverity_push, List.append_assoc, ← List.filter_append,
      List.singleton_append]

end ValidationReport

theorem Document.ofSeverity_validate (document : Document) (severity : Severity) :
    document.validate.ofSeverity severity =
      (Finding.structural document ++ Finding.longPaths document ++ Finding.duplicates document ++
        Finding.dependencies document).filter (·.severity = severity) := by
  have empty : ValidationReport.empty.ofSeverity severity = [] := by cases severity <;> rfl
  unfold Document.validate
  rw [ValidationReport.ofSeverity_extend, ValidationReport.ofSeverity_extend,
    ValidationReport.ofSeverity_extend, ValidationReport.ofSeverity_extend, empty,
    List.nil_append, List.filter_append, List.filter_append, List.filter_append]

/-- A report keeps every finding, each as often as the checks tell it. -/
theorem Document.validate_perm (document : Document) :
    (document.validate.errors ++ document.validate.warnings).Perm
      (Finding.structural document ++ Finding.longPaths document ++ Finding.duplicates document ++
        Finding.dependencies document) := by
  have errors : document.validate.errors = _ := document.ofSeverity_validate .error
  have warnings : document.validate.warnings = _ := document.ofSeverity_validate .warning
  have others : (fun finding : Finding => decide (finding.severity = .warning)) =
      fun finding => !decide (finding.severity = .error) := by
    funext finding
    cases finding.severity <;> rfl
  rw [errors, warnings, others]
  exact List.filter_append_perm _ _

namespace Finding

/-- All that there is to be found in a document. -/
inductive Due (document : Document) : Finding → Prop where
  | sectionMissing {key : String} : key ∈ requiredKeys → document.get? key = none →
    Due document (.sectionMissing key)
  | subsectionMissing {key subsection : String} {children : Dictionary Node} :
    key ∈ requiredKeys → document.get? key = some (.dictionary children) →
      subsection ∈ recommendedKeys key → children.contains subsection = false →
        Due document (.subsectionMissing key subsection)
  | sectionNotDictionary {key : String} {node : Node} : key ∈ requiredKeys →
    document.get? key = some node → node.dictionary? = none →
      Due document (.sectionNotDictionary key node.kind)
  | listNotArray {target : Target} {node : Node} : document.targetNode? target = some node →
    node.sequence? = none → Due document (.listNotArray target node.kind)
  | pathTooLong {target : Target} {index : Nat} {item : Node} {way : Path} {value : String} :
    itemAt? document target index = some item → Bears target item way value →
      128 < value.length → Due document (.pathTooLong (target.path ++ .index index :: way) value)
  | duplicate {target : Target} {items : List Node} {key : String} :
    document.items? target = some items → 2 ≤ (positionsWith target items key).length →
      Due document (.duplicate target key (positionsWith target items key))
  | requirementMissing {rule : DependencyRule} {required : String} {index : Nat} :
    (rule, required) ∈ DependencyRule.demands → LoadedAt (kexts document) rule.subject index →
      (∀ position, ¬ EnabledAt (kexts document) required position) →
        Due document (.requirementMissing index rule.subject required)
  | requirementLate {rule : DependencyRule} {required : String} {index position : Nat} :
    (rule, required) ∈ DependencyRule.demands → rule.requiresBefore = true →
      LoadedAt (kexts document) rule.subject index →
        LoadedAt (kexts document) required position → index < position →
          Due document (.requirementLate index rule.subject required)

variable {document : Document} {finding : Finding}

theorem mem_structural_iff_due :
    finding ∈ structural document ↔ Due document finding ∧ finding.check = .structural := by
  rw [mem_structural]
  constructor
  · rintro (⟨key, required, inside⟩ | ⟨target, inside⟩)
    · rcases mem_sectionFindings.mp inside with
        ⟨absent, rfl⟩ | ⟨children, subsection, top, usual, missing, rfl⟩ | ⟨node, top, other, rfl⟩
      · exact ⟨.sectionMissing required absent, rfl⟩
      · exact ⟨.subsectionMissing required top usual missing, rfl⟩
      · exact ⟨.sectionNotDictionary required top other, rfl⟩
    · obtain ⟨node, place, other, rfl⟩ := mem_listFindings.mp inside
      exact ⟨.listNotArray place other, rfl⟩
  · rintro ⟨due, own⟩
    cases due with
    | sectionMissing required absent =>
      exact .inl ⟨_, required, mem_sectionFindings.mpr (.inl ⟨absent, rfl⟩)⟩
    | subsectionMissing required top usual missing =>
      exact .inl ⟨_, required,
        mem_sectionFindings.mpr (.inr (.inl ⟨_, _, top, usual, missing, rfl⟩))⟩
    | sectionNotDictionary required top other =>
      exact .inl ⟨_, required, mem_sectionFindings.mpr (.inr (.inr ⟨_, top, other, rfl⟩))⟩
    | listNotArray place other =>
      exact .inr ⟨_, mem_listFindings.mpr ⟨_, place, other, rfl⟩⟩
    | pathTooLong | duplicate | requirementMissing | requirementLate => cases own

theorem mem_longPaths_iff_due :
    finding ∈ longPaths document ↔ Due document finding ∧ finding.check = .pathLength := by
  rw [mem_longPaths_iff]
  constructor
  · rintro ⟨target, index, item, way, value, held, bears, long, rfl⟩
    exact ⟨.pathTooLong held bears long, rfl⟩
  · rintro ⟨due, own⟩
    cases due with
    | pathTooLong held bears long => exact ⟨_, _, _, _, _, held, bears, long, rfl⟩
    | _ => cases own

theorem mem_duplicates_iff_due :
    finding ∈ duplicates document ↔ Due document finding ∧ finding.check = .duplicate := by
  rw [mem_duplicates_iff]
  constructor
  · rintro ⟨target, items, key, list, several, rfl⟩
    exact ⟨.duplicate list several, rfl⟩
  · rintro ⟨due, own⟩
    cases due with
    | duplicate list several => exact ⟨_, _, _, list, several, rfl⟩
    | _ => cases own

theorem verdict?_eq_requirementFinding {items : List Node} {demand : Demand} {index : Nat}
    (loaded : LoadedAt items demand.1.subject index) :
    verdict? items demand = requirementFinding items demand.1 index demand.2 := by
  rw [verdict?, position?_eq_some_iff.mpr loaded, Option.bind_some]

theorem mem_dependencies_iff_due :
    finding ∈ dependencies document ↔ Due document finding ∧ finding.check = .dependency := by
  rw [dependencies_eq, List.mem_filterMap]
  constructor
  · rintro ⟨⟨rule, required⟩, demanded, told⟩
    unfold verdict? at told
    obtain ⟨index, first, told⟩ := Option.bind_eq_some_iff.mp told
    have loaded := position?_eq_some_iff.mp first
    unfold requirementFinding at told
    split at told
    · rename_i absent
      obtain rfl := Option.some_inj.mp told
      exact ⟨.requirementMissing demanded loaded (position?_eq_none_iff.mp absent), rfl⟩
    · rename_i position second
      split at told
      · rename_i unmet
        obtain rfl := Option.some_inj.mp told
        exact ⟨.requirementLate demanded unmet.1 loaded (position?_eq_some_iff.mp second) unmet.2,
          rfl⟩
      · cases told
  · rintro ⟨due, own⟩
    cases due with
    | requirementMissing demanded loaded absent =>
      refine ⟨_, demanded, ?_⟩
      rw [verdict?_eq_requirementFinding loaded, requirementFinding,
        position?_eq_none_iff.mpr absent]
    | requirementLate demanded ordered loaded second after =>
      refine ⟨_, demanded, ?_⟩
      rw [verdict?_eq_requirementFinding loaded, requirementFinding,
        position?_eq_some_iff.mpr second]
      exact if_pos ⟨ordered, after⟩
    | _ => cases own

theorem mem_checks_iff_due :
    finding ∈ structural document ++ longPaths document ++ duplicates document ++
        dependencies document ↔ Due document finding := by
  rw [List.mem_append, List.mem_append, List.mem_append, mem_structural_iff_due,
    mem_longPaths_iff_due, mem_duplicates_iff_due, mem_dependencies_iff_due]
  constructor
  · rintro (((⟨due, -⟩ | ⟨due, -⟩) | ⟨due, -⟩) | ⟨due, -⟩) <;> exact due
  · intro due
    cases own : finding.check with
    | structural => exact .inl (.inl (.inl ⟨due, rfl⟩))
    | pathLength => exact .inl (.inl (.inr ⟨due, rfl⟩))
    | duplicate => exact .inl (.inr ⟨due, rfl⟩)
    | dependency => exact .inr ⟨due, rfl⟩

theorem Due.pointsInto (due : Due document finding) : PointsInto document finding := by
  cases due with
  | sectionMissing _ absent => exact ⟨rfl, rfl, locate_key_of_absent absent, rfl⟩
  | @subsectionMissing key subsection children _ top _ missing =>
    have absent : children.get? subsection = none :=
      Option.isNone_iff_eq_none.mp (Option.isSome_eq_false_iff.mp missing)
    exact ⟨rfl, rfl, locate_entry_of_absent (locate_key top) absent, [.key key], children, rfl,
      locate_key top⟩
  | sectionNotDictionary _ top _ => exact ⟨_, locate_key top, rfl, rfl⟩
  | listNotArray place _ => exact ⟨_, locate_targetNode? place, rfl, rfl⟩
  | pathTooLong held bears _ => exact pointsInto_pathTooLong held bears
  | duplicate list several => exact pointsInto_duplicate list several
  | requirementMissing _ loaded _ => exact ⟨leadsToKext_of_enabledAt loaded.1, rfl⟩
  | requirementLate _ _ loaded _ _ => exact ⟨leadsToKext_of_enabledAt loaded.1, rfl⟩

/-- Findings of different checks are not of one check. -/
theorem apart_of_check_ne {one other : Finding} (differ : one.check ≠ other.check) :
    Apart one other := fun same => absurd same differ

theorem apart_checks (document : Document) :
    (structural document ++ longPaths document ++ duplicates document ++
      dependencies document).Pairwise Apart := by
  refine List.pairwise_append.mpr ⟨?_, apart_dependencies document, ?_⟩
  · refine List.pairwise_append.mpr ⟨?_, apart_duplicates document, ?_⟩
    · refine List.pairwise_append.mpr ⟨apart_structural document, apart_longPaths document, ?_⟩
      intro one first other second
      refine apart_of_check_ne ?_
      rw [(mem_structural_iff_due.mp first).2, (mem_longPaths_iff_due.mp second).2]
      decide
    · intro one first other second
      refine apart_of_check_ne ?_
      rw [(mem_duplicates_iff_due.mp second).2]
      rcases List.mem_append.mp first with first | first
      · rw [(mem_structural_iff_due.mp first).2]
        decide
      · rw [(mem_longPaths_iff_due.mp first).2]
        decide
  · intro one first other second
    refine apart_of_check_ne ?_
    rw [(mem_dependencies_iff_due.mp second).2]
    rcases List.mem_append.mp first with first | first
    · rcases List.mem_append.mp first with first | first
      · rw [(mem_structural_iff_due.mp first).2]
        decide
      · rw [(mem_longPaths_iff_due.mp first).2]
        decide
    · rw [(mem_duplicates_iff_due.mp first).2]
      decide

end Finding

/-- The errors and the warnings of a report are those findings of the four checks, one check after
the other, that have this severity. Together they are all that there is to be found in the document,
each once. Every finding points at a place of the document that is as its message tells, and no two
findings of one check are about one place. -/
theorem findings_have_places (document : Document) :
    let found := Finding.structural document ++ Finding.longPaths document ++
      Finding.duplicates document ++ Finding.dependencies document
    let reported := document.validate.errors ++ document.validate.warnings
    (∀ finding ∈ reported, finding.PointsInto document) ∧
    (∀ finding ∈ document.validate.errors, finding.severity = .error) ∧
    (∀ finding ∈ document.validate.warnings, finding.severity = .warning) ∧
    document.validate.errors = found.filter (·.severity = .error) ∧
    document.validate.warnings = found.filter (·.severity = .warning) ∧
    reported.Perm found ∧
    (∀ finding, finding ∈ reported ↔ finding.Due document) ∧
    reported.Nodup ∧
    reported.Pairwise Finding.Apart := by
  intro found reported
  have errors : document.validate.errors = found.filter (·.severity = .error) :=
    document.ofSeverity_validate .error
  have warnings : document.validate.warnings = found.filter (·.severity = .warning) :=
    document.ofSeverity_validate .warning
  have perm : reported.Perm found := document.validate_perm
  have due (finding : Finding) : finding ∈ reported ↔ finding.Due document :=
    perm.mem_iff.trans Finding.mem_checks_iff_due
  have apart : reported.Pairwise Finding.Apart :=
    (perm.pairwise_iff fun differ same paths => differ same.symm paths.symm).mpr
      (Finding.apart_checks document)
  refine ⟨fun finding member => ((due finding).mp member).pointsInto, fun finding member => ?_,
    fun finding member => ?_, errors, warnings, perm, due, apart.imp ?_, apart⟩
  · rw [errors] at member
    exact of_decide_eq_true (List.mem_filter.mp member).2
  · rw [warnings] at member
    exact of_decide_eq_true (List.mem_filter.mp member).2
  · rintro one _ differ rfl
    exact differ rfl rfl

end BootSnapshot
