import BootSnapshot.Component.Path
import BootSnapshot.Proofs.Text.Composition
import BootSnapshot.Proofs.Text.Pieces

set_option autoImplicit false

namespace BootSnapshot

namespace ComponentPath

open Text Text.Canonical

def Slash (c : Char) : Prop := c = '/' ∨ c = '\\'

instance (c : Char) : Decidable (Slash c) := by unfold Slash; infer_instance

theorem Slash.lone {c : Char} (slash : Slash c) : Lone c := by
  rcases slash with rfl | rfl
  · exact lone_slash
  · exact lone_backslash

theorem Slash.forwardSlash_eq {c : Char} (slash : Slash c) : forwardSlash c = '/' := by
  rcases slash with rfl | rfl <;> rfl

theorem forwardSlash_of_not_slash {c : Char} (other : ¬ Slash c) :
    forwardSlash c = c ∧ c ≠ '/' := by
  unfold Slash at other
  unfold forwardSlash
  refine ⟨?_, fun same => other (Or.inl same)⟩
  rw [if_neg fun same => other (Or.inr same)]

def Unsplit (text : List Char) : Prop := ∀ c ∈ text, ¬ Slash c

def stretches (path : List Char) : List (List Char) := pieces '/' (path.map forwardSlash)

theorem Unsplit.map_eq {text : List Char} (unsplit : Unsplit text) :
    text.map forwardSlash = text ∧ '/' ∉ text := by
  refine ⟨?_, fun member => unsplit '/' member (Or.inl rfl)⟩
  rw [List.map_congr_left fun c member => (forwardSlash_of_not_slash (unsplit c member)).1]
  exact List.map_id'' (fun _ => rfl) text

theorem Unsplit.stretches_eq {text : List Char} (unsplit : Unsplit text) :
    stretches text = [text] := by
  unfold stretches
  rw [unsplit.map_eq.1, pieces_of_not_mem unsplit.map_eq.2]

theorem stretches_append {slash : Char} (separates : Slash slash) (front back : List Char) :
    stretches (front ++ slash :: back) = stretches front ++ stretches back := by
  unfold stretches
  rw [List.map_append, List.map_cons, separates.forwardSlash_eq, pieces_append]

/-- A path is a stretch without slashes, alone or with a slash and another path after it. -/
theorem stretch_induction {motive : List Char → Prop}
    (last : ∀ text, Unsplit text → motive text)
    (step : ∀ text slash rest, Unsplit text → Slash slash → motive rest →
      motive (text ++ slash :: rest)) (path : List Char) : motive path := by
  have all : ∀ front, Unsplit front → motive (front ++ path) := by
    induction path with
    | nil =>
      intro front unsplit
      rw [List.append_nil]
      exact last front unsplit
    | cons c rest ih =>
      intro front unsplit
      by_cases slash : Slash c
      · exact step front c rest unsplit slash (ih [] fun d member => absurd member List.not_mem_nil)
      · have longer : Unsplit (front ++ [c]) := by
          intro d member
          rcases List.mem_append.mp member with early | late
          · exact unsplit d early
          · rw [List.mem_singleton.mp late]
            exact slash
        have shift := ih (front ++ [c]) longer
        rwa [List.append_assoc, List.singleton_append] at shift
  exact all [] fun d member => absurd member List.not_mem_nil

theorem Unsplit.composed {text : List Char} (unsplit : Unsplit text) :
    Unsplit (composed text) :=
  fun c member slash => unsplit c (mem_composed_lone slash.lone member) slash

/-- Slashes of either kind cut a path before or after composition alike. -/
theorem stretches_composed (path : List Char) :
    stretches (composed path) = (stretches path).map composed := by
  induction path using stretch_induction with
  | last text unsplit =>
    rw [unsplit.composed.stretches_eq, unsplit.stretches_eq, List.map_cons, List.map_nil]
  | step text slash rest unsplit separates ih =>
    rw [composed_append_lone separates.lone, stretches_append separates, ih,
      stretches_append separates, List.map_append, unsplit.composed.stretches_eq,
      unsplit.stretches_eq, List.map_cons, List.map_nil]

theorem unsplit_of_mem_stretches {path stretch : List Char} (member : stretch ∈ stretches path) :
    Unsplit stretch := by
  induction path using stretch_induction with
  | last text unsplit =>
    rw [unsplit.stretches_eq, List.mem_singleton] at member
    exact member ▸ unsplit
  | step text slash rest unsplit separates ih =>
    rw [stretches_append separates, unsplit.stretches_eq, List.mem_append,
      List.mem_singleton] at member
    rcases member with same | later
    · exact same ▸ unsplit
    · exact ih later

theorem parts_eq (path : List Char) :
    parts path = ((stretches path).map composed).filter isPart := by
  rw [← stretches_composed]
  rfl

theorem parts_append {slash : Char} (separates : Slash slash) (front back : List Char) :
    parts (front ++ slash :: back) = parts front ++ parts back := by
  rw [parts_eq, stretches_append separates, List.map_append, List.filter_append, ← parts_eq,
    ← parts_eq]

/-- A part as it stands in a normal spelling. -/
structure NormalPart (part : List Char) : Prop where
  counts : isPart part = true
  unsplit : Unsplit part
  normal : composed part = part

theorem normalPart_of_mem {path part : List Char} (member : part ∈ parts path) :
    NormalPart part := by
  have ⟨stretch, counts⟩ := List.mem_filter.mp member
  have unsplit : Unsplit part := unsplit_of_mem_stretches stretch
  change part ∈ stretches (composed path) at stretch
  rw [stretches_composed] at stretch
  obtain ⟨text, -, rfl⟩ := List.mem_map.mp stretch
  exact ⟨counts, unsplit, composed_composed text⟩

theorem NormalPart.parts_eq {part : List Char} (normal : NormalPart part) :
    parts part = [part] := by
  rw [ComponentPath.parts_eq, normal.unsplit.stretches_eq, List.map_cons, List.map_nil,
    normal.normal, List.filter_cons_of_pos normal.counts, List.filter_nil]

theorem parts_intercalate {list : List (List Char)} (normal : ∀ part ∈ list, NormalPart part) :
    parts (['/'].intercalate list) = list := by
  induction list with
  | nil => rfl
  | cons part rest ih =>
    have head := normal part List.mem_cons_self
    have tail := ih fun other member => normal other (List.mem_cons_of_mem part member)
    cases rest with
    | nil => rw [List.intercalate_singleton, head.parts_eq]
    | cons next rest =>
      rw [List.intercalate_cons_cons, List.append_assoc, List.singleton_append,
        parts_append (Or.inl rfl), head.parts_eq, tail, List.singleton_append]

theorem parts_normalizeChars (path : List Char) : parts (normalizeChars path) = parts path :=
  parts_intercalate fun _ member => normalPart_of_mem member

def partsOf (path : String) : List (List Char) := parts path.toList

theorem partsOf_normalize (path : String) : partsOf (normalize path) = partsOf path := by
  unfold partsOf normalize
  rw [String.toList_ofList, parts_normalizeChars]

/-- Joining paths joins their parts. -/
theorem partsOf_join (front back : String) :
    partsOf (front ++ "/" ++ back) = partsOf front ++ partsOf back := by
  have chars : (front ++ "/" ++ back).toList = front.toList ++ '/' :: back.toList := by
    rw [String.toList_append, String.toList_append, List.append_assoc]
    rfl
  unfold partsOf
  rw [chars, parts_append (Or.inl rfl)]

/-- Two spellings are the same path if and only if they have the same parts. -/
theorem normalize_eq_iff (one other : String) :
    normalize one = normalize other ↔ partsOf one = partsOf other := by
  constructor
  · intro same
    rw [← partsOf_normalize one, same, partsOf_normalize]
  · intro same
    have chars : normalizeChars one.toList = normalizeChars other.toList :=
      congrArg (['/'].intercalate ·) same
    exact congrArg String.ofList chars

theorem normalize_normalize (path : String) : normalize (normalize path) = normalize path := by
  rw [normalize_eq_iff, partsOf_normalize]

/-- Where no character has another form, only slashes and parts are looked at. -/
theorem normalize_of_plain {path : String} (plain : path.toList.all (Plain ·) = true) :
    normalize path = String.ofList (['/'].intercalate ((stretches path.toList).filter isPart)) := by
  have each : ∀ c ∈ path.toList, Plain c :=
    fun c member => of_decide_eq_true (List.all_eq_true.mp plain c member)
  unfold normalize normalizeChars parts
  rw [composed_of_plain each]
  rfl

/-- A character that no table lists counts, unless it is a slash or a point. -/
theorem partsOf_ne_nil {path : String} {c : Char} (inside : c ∈ path.toList) (plain : Plain c)
    (other : ¬ Slash c) (point : c ≠ '.') : partsOf path ≠ [] := by
  intro empty
  have blank : ∀ d ∈ composed path.toList, Slash d ∨ d = '.' := by
    intro d member
    by_cases slash : Slash d
    · exact Or.inl slash
    · obtain ⟨same, apart⟩ := forwardSlash_of_not_slash slash
      have shown : d ∈ (composed path.toList).map forwardSlash :=
        List.mem_map.mpr ⟨d, member, same⟩
      obtain ⟨stretch, held, part⟩ := exists_mem_pieces_iff.mpr ⟨shown, apart⟩
      have blank := List.filter_eq_nil_iff.mp empty stretch held
      have filled : stretch ≠ [] := List.ne_nil_of_mem part
      simp only [isPart, filled, ne_eq, not_false_eq_true, decide_true, Bool.true_and,
        decide_eq_true_eq, not_not] at blank
      rw [blank, List.mem_singleton] at part
      exact Or.inr part
  have all : ∀ d ∈ composed path.toList, Plain d := by
    intro d member
    rcases blank d member with (rfl | rfl) | rfl <;> decide
  exact (blank c (mem_composed_of_plain all plain inside)).elim other point

theorem head?_normalize (path : String) : (normalize path).toList.head? ≠ some '/' := by
  unfold normalize normalizeChars
  rw [String.toList_ofList]
  cases cut : parts path.toList with
  | nil => decide
  | cons part rest =>
    have normal := normalPart_of_mem (cut ▸ List.mem_cons_self : part ∈ parts path.toList)
    cases part with
    | nil => cases normal.counts
    | cons c more =>
      have first : (['/'].intercalate ((c :: more) :: rest)).head? = some c := by
        cases rest <;> rfl
      rw [first]
      intro same
      exact normal.unsplit c List.mem_cons_self (Or.inl (Option.some_inj.mp same))

theorem normalize_eq_empty_iff (path : String) : normalize path = "" ↔ partsOf path = [] :=
  normalize_eq_iff path ""

end ComponentPath
end BootSnapshot
