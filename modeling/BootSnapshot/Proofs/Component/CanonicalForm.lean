import BootSnapshot.Proofs.Component.Path

set_option autoImplicit false

namespace BootSnapshot.ComponentPath

open Text Text.Canonical

/-- The stretches of a path between slashes of either kind, without empty ones and single points,
and each in composed form. -/
def spelledParts (path : String) : List (List Char) :=
  ((path.toList.splitOnP fun c => c = '/' ∨ c = '\\').filter fun part =>
    part ≠ [] ∧ part ≠ ['.']).map composed

/-- The stretches of a spelling between its slashes, empty ones included; an empty spelling has
none. -/
def components (spelling : String) : List (List Char) :=
  if spelling = "" then [] else pieces '/' spelling.toList

theorem stretches_eq_splitOnP (path : List Char) :
    stretches path = path.splitOnP fun c => c = '/' ∨ c = '\\' := by
  unfold stretches
  rw [pieces_eq_splitOn, List.splitOn_eq_splitOnP]
  induction path with
  | nil => rfl
  | cons c rest ih =>
    rw [List.map_cons, List.splitOnP_cons_eq_if_modifyHead, List.splitOnP_cons_eq_if_modifyHead, ih]
    by_cases slash : c = '/' ∨ c = '\\'
    · rw [if_pos (beq_iff_eq.mpr (Slash.forwardSlash_eq slash)), if_pos (decide_eq_true slash)]
    · obtain ⟨same, other⟩ := forwardSlash_of_not_slash slash
      rw [same, if_neg (fun equal => other (beq_iff_eq.mp equal)),
        if_neg (fun equal => slash (of_decide_eq_true equal))]

/-- Whether a stretch counts is the same before and after composition. -/
theorem isPart_composed (stretch : List Char) : isPart (composed stretch) = isPart stretch := by
  unfold isPart
  simp only [ne_eq, composed_eq_nil_iff, composed_eq_lone_iff lone_point]

theorem partsOf_eq_spelledParts (path : String) : partsOf path = spelledParts path := by
  have counts : (isPart ∘ composed) = fun part => decide (part ≠ [] ∧ part ≠ ['.']) := by
    funext stretch
    rw [Function.comp_apply, isPart_composed, isPart, ← Bool.decide_and]
  unfold partsOf spelledParts
  rw [parts_eq, List.filter_map, stretches_eq_splitOnP, counts]

theorem pieces_normalizeChars {path : List Char} (some : parts path ≠ []) :
    pieces '/' (normalizeChars path) = parts path := by
  apply pieces_intercalate some
  intro part member slash
  exact (normalPart_of_mem member).unsplit '/' slash (Or.inl rfl)

theorem components_normalize (path : String) : components (normalize path) = partsOf path := by
  unfold components
  split
  · rename_i empty
    exact ((normalize_eq_empty_iff path).mp empty).symm
  · rename_i filled
    unfold normalize
    rw [String.toList_ofList]
    exact pieces_normalizeChars fun none => filled ((normalize_eq_empty_iff path).mpr none)

theorem normalPart_of_mem_components {path : String} {stretch : List Char}
    (member : stretch ∈ components (normalize path)) : NormalPart stretch := by
  rw [components_normalize] at member
  exact normalPart_of_mem member

/-- There is something on both sides of every slash of a normal spelling. -/
theorem nil_not_mem_of_slash {path : String} {front back : List Char}
    (split : (normalize path).toList = front ++ '/' :: back) :
    [] ∉ pieces '/' front ∧ [] ∉ pieces '/' back := by
  have filled : normalize path ≠ "" := by
    intro empty
    rw [empty] at split
    exact List.append_ne_nil_of_right_ne_nil front (List.cons_ne_nil _ _) split.symm
  have cut : components (normalize path) = pieces '/' front ++ pieces '/' back := by
    rw [components, if_neg filled, split, pieces_append]
  have counts : [] ∉ components (normalize path) := by
    intro member
    cases (normalPart_of_mem_components member).counts
  rw [cut, List.mem_append, not_or] at counts
  exact counts

theorem nil_mem_pieces_nil : [] ∈ pieces '/' [] := List.mem_singleton.mpr rfl

theorem getLast?_normalize (path : String) : (normalize path).toList.getLast? ≠ some '/' := by
  intro last
  obtain ⟨front, split⟩ := List.getLast?_eq_some_iff.mp last
  exact (nil_not_mem_of_slash split).2 nil_mem_pieces_nil

theorem no_double_slash (path : String) : ¬ ['/', '/'] <:+: (normalize path).toList := by
  rintro ⟨front, back, split⟩
  rw [List.append_assoc] at split
  apply (nil_not_mem_of_slash split.symm).2
  show [] ∈ pieces '/' ('/' :: back)
  rw [pieces, if_pos rfl]
  exact List.mem_cons_self

theorem backslash_not_mem_normalize (path : String) : '\\' ∉ (normalize path).toList := by
  intro member
  obtain ⟨stretch, inside, held⟩ := exists_mem_pieces_iff.mpr ⟨member, (by decide : '\\' ≠ '/')⟩
  have filled : normalize path ≠ "" := by
    intro empty
    rw [empty] at member
    cases member
  have part : stretch ∈ components (normalize path) := by
    rw [components, if_neg filled]
    exact inside
  exact (normalPart_of_mem_components part).unsplit '\\' held (Or.inr rfl)

/-- The normal spelling is spelled normally already. It has no backslash, no slash at its ends, no
two slashes side by side and no single point between slashes. It is the same for two paths exactly
if they have the same parts in composed form; these parts are what stands between its slashes, and
the parts of paths joined by a slash are those of the one and then those of the other. -/
theorem normalize_canonical :
    (∀ path, normalize (normalize path) = normalize path) ∧
    (∀ path, '\\' ∉ (normalize path).toList ∧
      (normalize path).toList.head? ≠ some '/' ∧ (normalize path).toList.getLast? ≠ some '/' ∧
      ¬ ['/', '/'] <:+: (normalize path).toList ∧ ['.'] ∉ components (normalize path)) ∧
    (∀ one other, normalize one = normalize other ↔ spelledParts one = spelledParts other) ∧
    (∀ path, components (normalize path) = spelledParts path) ∧
    ∀ front back, components (normalize (front ++ "/" ++ back)) =
      components (normalize front) ++ components (normalize back) := by
  refine ⟨normalize_normalize, ?_, ?_, ?_, ?_⟩
  · intro path
    refine ⟨backslash_not_mem_normalize path, head?_normalize path, getLast?_normalize path,
      no_double_slash path, ?_⟩
    intro member
    cases (normalPart_of_mem_components member).counts
  · intro one other
    rw [← partsOf_eq_spelledParts, ← partsOf_eq_spelledParts]
    exact normalize_eq_iff one other
  · intro path
    rw [components_normalize, partsOf_eq_spelledParts]
  · intro front back
    rw [components_normalize, components_normalize, components_normalize, partsOf_join]

end BootSnapshot.ComponentPath
