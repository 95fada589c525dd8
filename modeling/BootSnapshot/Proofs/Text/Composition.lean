import BootSnapshot.Proofs.Text.Decomposition

set_option autoImplicit false

namespace BootSnapshot.Text.Canonical

theorem place_pass {c next : Char} (rest : List Char) (mark : combiningClass next ≠ 0)
    (lower : combiningClass next < combiningClass c) :
    place c (next :: rest) = next :: place c rest := by
  simp only [place, ne_eq, mark, not_false_eq_true, lower, and_self, ↓reduceIte]

theorem place_stay {c next : Char} (rest : List Char)
    (stay : combiningClass next = 0 ∨ combiningClass c ≤ combiningClass next) :
    place c (next :: rest) = c :: next :: rest := by
  have absent : ¬ (combiningClass next ≠ 0 ∧ combiningClass next < combiningClass c) := by omega
  simp only [place, absent, ↓reduceIte]

theorem place_comm_of_lt {c d : Char} (mark : combiningClass c ≠ 0)
    (lower : combiningClass c < combiningClass d) (text : List Char) :
    place c (place d text) = place d (place c text) := by
  induction text with
  | nil =>
    change place c (d :: []) = place d (c :: [])
    rw [place_stay [] (by omega), place_pass [] mark lower]
    rfl
  | cons next rest ih =>
    by_cases starter : combiningClass next = 0
    · rw [place_stay rest (Or.inl starter), place_stay rest (Or.inl starter),
        place_stay (next :: rest) (by omega), place_pass (next :: rest) mark lower,
        place_stay rest (Or.inl starter)]
    · by_cases below : combiningClass next < combiningClass c
      · rw [place_pass rest starter (by omega), place_pass rest starter below,
          place_pass _ starter below, place_pass _ starter (by omega), ih]
      · by_cases between : combiningClass next < combiningClass d
        · rw [place_pass rest starter between, place_stay _ (by omega),
            place_stay rest (by omega), place_pass _ mark lower, place_pass rest starter between]
        · rw [place_stay rest (by omega), place_stay _ (by omega), place_stay rest (by omega),
            place_pass _ mark lower, place_stay rest (by omega)]

theorem place_comm {c d : Char} (first : combiningClass c ≠ 0) (second : combiningClass d ≠ 0)
    (differ : combiningClass c ≠ combiningClass d) (text : List Char) :
    place c (place d text) = place d (place c text) := by
  rcases Nat.lt_or_gt_of_ne differ with lower | upper
  · exact place_comm_of_lt first lower text
  · exact (place_comm_of_lt second upper text).symm

/-- A mark may stand behind a character of its own or a lower class, a starter behind any. -/
def Follows (c next : Char) : Prop :=
  combiningClass next = 0 ∨ combiningClass c ≤ combiningClass next

/-- Every run of marks is in ascending order of class. -/
def Ordered (text : List Char) : Prop := text.IsChain Follows

theorem Ordered.tail {c : Char} {rest : List Char} (ordered : Ordered (c :: rest)) :
    Ordered rest := by
  cases rest with
  | nil => exact List.IsChain.nil
  | cons next rest => exact (List.isChain_cons_cons.mp ordered).2

theorem Ordered.right_of_append {front back : List Char} (ordered : Ordered (front ++ back)) :
    Ordered back := by
  induction front with
  | nil => exact ordered
  | cons c front ih => exact ih ordered.tail

theorem Ordered.place {text : List Char} (c : Char) (ordered : Ordered text) :
    Ordered (place c text) := by
  induction text with
  | nil => exact List.IsChain.singleton c
  | cons next rest ih =>
    by_cases pass : combiningClass next ≠ 0 ∧ combiningClass next < combiningClass c
    · rw [place_pass rest pass.1 pass.2]
      have placed := ih ordered.tail
      cases rest with
      | nil => exact List.IsChain.cons_cons (Or.inr (by omega)) placed
      | cons after rest =>
        by_cases further : combiningClass after ≠ 0 ∧ combiningClass after < combiningClass c
        · rw [place_pass rest further.1 further.2] at placed ⊢
          exact List.IsChain.cons_cons (List.isChain_cons_cons.mp ordered).1 placed
        · rw [place_stay rest (by omega)] at placed ⊢
          exact List.IsChain.cons_cons (Or.inr (by omega)) placed
    · rw [place_stay rest (by omega)]
      have follows : Follows c next := by unfold Follows; omega
      exact List.IsChain.cons_cons follows ordered

theorem ordered_order (text : List Char) : Ordered (order text) := by
  induction text with
  | nil => exact List.IsChain.nil
  | cons c rest ih => exact ih.place c

theorem Ordered.order_eq {text : List Char} (ordered : Ordered text) : order text = text := by
  induction text with
  | nil => rfl
  | cons c rest ih =>
    change Canonical.place c (order rest) = c :: rest
    rw [ih ordered.tail]
    cases rest with
    | nil => rfl
    | cons next rest => exact place_stay rest (List.isChain_cons_cons.mp ordered).1

theorem order_append (front back : List Char) :
    order (front ++ back) = front.foldr place (order back) := by
  induction front with
  | nil => rfl
  | cons c front ih => exact congrArg (place c) ih

theorem order_append_congr (front : List Char) {one other : List Char}
    (same : order one = order other) : order (front ++ one) = order (front ++ other) := by
  rw [order_append, order_append, same]

/-- A mark may be moved over marks of other classes. -/
theorem order_move {c : Char} (between rest : List Char) (mark : combiningClass c ≠ 0)
    (apart : ∀ b ∈ between, combiningClass b ≠ 0 ∧ combiningClass b ≠ combiningClass c) :
    order (c :: (between ++ rest)) = order (between ++ c :: rest) := by
  induction between with
  | nil => rfl
  | cons b between ih =>
    have head := apart b List.mem_cons_self
    calc
      place c (place b (order (between ++ rest))) = place b (place c (order (between ++ rest))) :=
        place_comm mark head.1 (Ne.symm head.2) _
      _ = place b (order (between ++ c :: rest)) :=
        congrArg (place b) (ih fun b member => apart b (List.mem_cons_of_mem _ member))

/-- A mark may be taken out of ordered text. -/
theorem Ordered.remove {c : Char} {front back : List Char} (mark : combiningClass c ≠ 0)
    (ordered : Ordered (front ++ c :: back)) : Ordered (front ++ back) := by
  induction front with
  | nil => exact ordered.tail
  | cons b front ih =>
    have rest := ih ordered.tail
    cases front with
    | cons b' front =>
      exact List.IsChain.cons_cons (List.isChain_cons_cons.mp ordered).1 rest
    | nil =>
      cases back with
      | nil => exact List.IsChain.singleton b
      | cons next back =>
        have first : Follows b c := (List.isChain_cons_cons.mp ordered).1
        have second : Follows c next := (List.isChain_cons_cons.mp ordered.tail).1
        refine List.IsChain.cons_cons ?_ rest
        unfold Follows at first second ⊢
        omega

/-- In ordered text the marks in front of a mark have no higher class. -/
theorem Ordered.class_le {c : Char} {front back : List Char}
    (ordered : Ordered (front ++ c :: back)) (mark : combiningClass c ≠ 0)
    (marks : ∀ b ∈ front, combiningClass b ≠ 0) :
    ∀ b ∈ front, combiningClass b ≤ combiningClass c := by
  induction front with
  | nil => intro b member; cases member
  | cons head front ih =>
    have others := ih ordered.tail fun b member => marks b (List.mem_cons_of_mem _ member)
    intro b member
    rcases List.mem_cons.mp member with rfl | member
    · cases front with
      | nil =>
        have follows : Follows b c := (List.isChain_cons_cons.mp ordered).1
        unfold Follows at follows
        omega
      | cons next front =>
        have follows : Follows b next := (List.isChain_cons_cons.mp ordered).1
        have step := others next List.mem_cons_self
        have nonzero := marks next (List.mem_cons_of_mem _ List.mem_cons_self)
        unfold Follows at follows
        omega
    · exact others b member

theorem decompose_append (front back : List Char) :
    decompose (front ++ back) = decompose front ++ decompose back := List.flatMap_append

theorem decompose_cons (c : Char) (rest : List Char) :
    decompose (c :: rest) = decomposeChar c ++ decompose rest := List.flatMap_cons

def Decomposed (text : List Char) : Prop := ∀ c ∈ text, decomposeChar c = [c]

theorem Decomposed.decompose_eq {text : List Char} (full : Decomposed text) :
    decompose text = text := by
  induction text with
  | nil => rfl
  | cons c rest ih =>
    rw [decompose_cons, full c List.mem_cons_self,
      ih fun d member => full d (List.mem_cons_of_mem c member), List.singleton_append]

theorem decomposed_decompose (text : List Char) : Decomposed (decompose text) := by
  intro part member
  obtain ⟨c, -, part_of⟩ := List.mem_flatMap.mp member
  exact decomposeChar_of_mem part_of

theorem place_perm (c : Char) (text : List Char) : (place c text).Perm (c :: text) := by
  induction text with
  | nil => exact List.Perm.refl [c]
  | cons next rest ih =>
    unfold place
    split
    · exact (ih.cons next).trans (List.Perm.swap c next rest)
    · exact List.Perm.refl _

theorem order_perm (text : List Char) : (order text).Perm text := by
  induction text with
  | nil => exact List.Perm.refl []
  | cons c rest ih => exact (place_perm c (order rest)).trans (ih.cons c)

theorem Decomposed.order {text : List Char} (full : Decomposed text) : Decomposed (order text) :=
  fun c member => full c ((order_perm text).mem_iff.mp member)

/-- The composite that a base takes next, if it is not out of reach. -/
def reach? (base : Char) (between : List Char) (c : Char) : Option Char :=
  if blocked between.head? (combiningClass c) then none else composite? base c

theorem composeFrom_of_some {base c whole : Char} {between : List Char} (rest : List Char)
    (reached : reach? base between c = some whole) :
    composeFrom base between (c :: rest) = composeFrom whole between rest := by
  unfold reach? at reached
  simp only [composeFrom, reached]

theorem composeFrom_of_none {base c : Char} {between : List Char} (rest : List Char)
    (missed : reach? base between c = none) :
    composeFrom base between (c :: rest) =
      if combiningClass c = 0 then base :: (between.reverse ++ composeFrom c [] rest)
      else composeFrom base (c :: between) rest := by
  unfold reach? at missed
  simp only [composeFrom, missed]

theorem composite?_of_reach? {base c whole : Char} {between : List Char}
    (reached : reach? base between c = some whole) : composite? base c = some whole := by
  unfold reach? at reached
  split at reached
  · cases reached
  · exact reached

theorem lt_of_reach? {base c whole last : Char} {between : List Char}
    (reached : reach? base (last :: between) c = some whole) :
    combiningClass last < combiningClass c := by
  unfold reach? at reached
  split at reached
  · cases reached
  · rename_i free
    simpa only [List.head?_cons, blocked, decide_eq_true_eq, Nat.not_le] using free

/-- What a base takes up can be put back behind it: the marks that it passed have lower classes. -/
theorem order_reached {base c whole : Char} {between rest : List Char}
    (reached : reach? base between c = some whole)
    (marks : ∀ b ∈ between, combiningClass b ≠ 0)
    (ordered : Ordered (between.reverse ++ c :: rest)) :
    order (c :: (between.reverse ++ rest)) = order (between.reverse ++ c :: rest) ∧
      Ordered (between.reverse ++ rest) := by
  cases between with
  | nil => exact ⟨rfl, ordered.tail⟩
  | cons last between =>
    have lower := lt_of_reach? reached
    have mark : combiningClass c ≠ 0 := by omega
    refine ⟨order_move _ _ mark fun b member => ?_, ordered.remove mark⟩
    have member' := List.mem_reverse.mp member
    refine ⟨marks b member', ?_⟩
    rcases List.mem_cons.mp member' with rfl | earlier
    · omega
    · have split : (last :: between).reverse ++ c :: rest =
          between.reverse ++ last :: (c :: rest) := by
        rw [List.reverse_cons, List.append_assoc, List.singleton_append]
      rw [split] at ordered
      have bound := ordered.class_le (marks last List.mem_cons_self)
        (fun d inside => marks d (List.mem_cons_of_mem _ (List.mem_reverse.mp inside)))
        b (List.mem_reverse.mpr earlier)
      omega

/-- Composing from a base on keeps the decomposition, up to the order of marks. The marks in
between and the rest are one ordered text throughout, which is what lets a mark go back. -/
theorem order_decompose_composeFrom (base : Char) (between rest : List Char)
    (marks : ∀ b ∈ between, combiningClass b ≠ 0)
    (full : Decomposed (between.reverse ++ rest)) (ordered : Ordered (between.reverse ++ rest)) :
    order (decompose (composeFrom base between rest)) =
      order (decomposeChar base ++ (between.reverse ++ rest)) := by
  induction rest generalizing base between with
  | nil =>
    simp only [List.append_nil] at full ⊢
    simp only [composeFrom, decompose_cons, full.decompose_eq]
  | cons c rest ih =>
    have fullRest : Decomposed (between.reverse ++ rest) := fun d member => full d (by
      rcases List.mem_append.mp member with front | back
      · exact List.mem_append_left _ front
      · exact List.mem_append_right _ (List.mem_cons_of_mem c back))
    have single : decomposeChar c = [c] :=
      full c (List.mem_append_right _ List.mem_cons_self)
    cases reached : reach? base between c with
    | some whole =>
      have ⟨moved, orderedRest⟩ := order_reached reached marks ordered
      have image := decomposeChar_of_composite (composite?_of_reach? reached)
      rw [composeFrom_of_some rest reached, ih whole between marks fullRest orderedRest, image,
        single, List.append_assoc, List.singleton_append]
      exact order_append_congr _ moved
    | none =>
      rw [composeFrom_of_none rest reached]
      split
      · have tailFull : Decomposed rest := fun d member =>
          fullRest d (List.mem_append_right _ member)
        have front : Decomposed between.reverse := fun d member =>
          full d (List.mem_append_left _ member)
        have tailOrdered : Ordered rest := (ordered.right_of_append).tail
        have later := ih c [] (fun b member => absurd member List.not_mem_nil) tailFull tailOrdered
        rw [decompose_cons, decompose_append, front.decompose_eq]
        refine order_append_congr _ (order_append_congr _ ?_)
        rw [later, single]
        rfl
      · rename_i mark
        have shift : (c :: between).reverse ++ rest = between.reverse ++ c :: rest := by
          rw [List.reverse_cons, List.append_assoc, List.singleton_append]
        rw [← shift] at full ordered ⊢
        refine ih base (c :: between) (fun b member => ?_) full ordered
        rcases List.mem_cons.mp member with rfl | earlier
        · exact mark
        · exact marks b earlier

theorem order_decompose_compose {text : List Char} (full : Decomposed text)
    (ordered : Ordered text) : order (decompose (compose text)) = text := by
  induction text with
  | nil => rfl
  | cons c rest ih =>
    have single := full c List.mem_cons_self
    have fullRest : Decomposed rest := fun d member => full d (List.mem_cons_of_mem c member)
    unfold compose
    split
    · rw [order_decompose_composeFrom c [] rest (fun b member => absurd member List.not_mem_nil)
        fullRest ordered.tail, single]
      exact ordered.order_eq
    · rw [decompose_cons, single]
      calc
        place c (order (decompose (compose rest))) = place c (order rest) := by
          rw [ih fullRest ordered.tail, ordered.tail.order_eq]
        _ = c :: rest := ordered.order_eq

/-- The composed form of a text is composed. -/
theorem composed_composed (text : List Char) : composed (composed text) = composed text := by
  have full := (decomposed_decompose text).order
  have ordered := ordered_order (decompose text)
  exact congrArg compose (order_decompose_compose full ordered)

/-- A character that no decomposition and no composition of others involves. -/
structure Lone (c : Char) : Prop where
  starter : combiningClass c = 0
  single : decomposeChar c = [c]
  image : ∀ d, c ∈ decomposeChar d → d = c
  first : ∀ mark, composite? c mark = none
  second : ∀ base, composite? base c = none
  whole : ∀ base mark, composite? base mark ≠ some c

/-- No line of the tables mentions a code point below the first listed one. -/
def unmentioned (code : Nat) : Bool :=
  decide (code < 0xC0) &&
    (combiningClasses.all fun (first, last, _) => Nat.blt code first || Nat.blt last code) &&
    (decompositions.all fun run => run.2.all fun image => image.all fun part => part ≠ code) &&
    compositions.all fun row => row.2.all fun pair => pair.1 ≠ code ∧ pair.2 ≠ code

theorem combiningClass_eq_zero {c : Char}
    (outside : (combiningClasses.all fun (first, last, _) =>
      Nat.blt c.toNat first || Nat.blt last c.toNat) = true) : combiningClass c = 0 := by
  unfold combiningClass
  split
  · rename_i first last cls found
    have member := List.mem_of_find?_eq_some found
    have inside := List.find?_some found
    have apart := List.all_eq_true.mp outside _ member
    simp only [Bool.and_eq_true, decide_eq_true_eq] at inside
    simp only [Bool.or_eq_true, Nat.blt_eq] at apart
    omega
  · rfl

theorem eq_of_mem_decomposeChar {c d : Char} (low : c.toNat < 0xC0)
    (images : (decompositions.all fun run => run.2.all fun image =>
      image.all fun part => part ≠ c.toNat) = true)
    (member : c ∈ decomposeChar d) : d = c := by
  rw [decomposeChar_eq, List.mem_map] at member
  obtain ⟨code, found, same⟩ := member
  unfold codesOf at found
  split at found
  · rw [← same, List.mem_singleton.mp found, Char.ofNat_toNat]
  · cases image : decomposition? d.toNat with
    | none =>
      rw [image, Option.getD_none, List.mem_singleton] at found
      rw [← same, found, Char.ofNat_toNat]
    | some codes =>
      rw [image, Option.getD_some] at found
      have value (final : Final code) : code = c.toNat := by rw [← same, toNat_ofNat final.valid]
      by_cases syllable : Syllable d.toNat
      · rw [decomposition?_of_syllable syllable, Option.some_inj] at image
        have high := letter_of_mem_syllable syllable (image ▸ found)
        have final := final_of_letter high.1 high.2
        have equal := value final
        omega
      · rw [decomposition?_of_not_syllable syllable] at image
        obtain ⟨run, listed, place⟩ := mem_of_imageIn? image
        have final := final_of_image listed place found
        have parts := List.all_eq_true.mp (List.all_eq_true.mp images run listed) codes place
        exact absurd (value final) (of_decide_eq_true (List.all_eq_true.mp parts code found))

theorem lone_of_unmentioned {c : Char} (check : unmentioned c.toNat = true) : Lone c := by
  simp only [unmentioned, Bool.and_eq_true, decide_eq_true_eq] at check
  obtain ⟨⟨⟨low, outside⟩, images⟩, pairs⟩ := check
  have absent {first second code : Nat} (composes : Composes first second code) :
      first ≠ c.toNat ∧ Char.ofNat code ≠ c := by
    have valid := composes.agree.1
    cases composes with
    | syllable composed =>
      have inside := (syllable_of_compose composed).1
      have letters := letters_of_compose composed
      unfold Syllable at inside
      refine ⟨by omega, fun same => ?_⟩
      rw [← same, toNat_ofNat valid] at low
      omega
    | row row pair =>
      have apart := List.all_eq_true.mp (List.all_eq_true.mp pairs _ row) _ pair
      simp only [decide_eq_true_eq] at apart
      refine ⟨apart.1, fun same => apart.2 ?_⟩
      rw [← same, toNat_ofNat valid]
  refine ⟨combiningClass_eq_zero outside, ?_, fun d => eq_of_mem_decomposeChar low images,
    fun mark => ?_, fun base => ?_, fun base mark found => ?_⟩
  · simp only [decomposeChar, low, ↓reduceIte]
  · cases found : composite? c mark with
    | none => rfl
    | some whole =>
      obtain ⟨code, composes, -⟩ := composes_of_composite? found
      exact absurd rfl (absent composes).1
  · have early : c.toNat < 0x300 := by omega
    simp only [composite?, early, ↓reduceIte]
  · obtain ⟨code, composes, same⟩ := composes_of_composite? found
    exact (absent composes).2 same.symm

theorem lone_slash : Lone '/' := lone_of_unmentioned (by decide +kernel)

theorem lone_backslash : Lone '\\' := lone_of_unmentioned (by decide +kernel)

theorem lone_point : Lone '.' := lone_of_unmentioned (by decide +kernel)

theorem place_append_starter {c s : Char} (front back : List Char)
    (starter : combiningClass s = 0) : place c (front ++ s :: back) = place c front ++ s :: back := by
  induction front with
  | nil => exact place_stay back (Or.inl starter)
  | cons next front ih =>
    by_cases pass : combiningClass next ≠ 0 ∧ combiningClass next < combiningClass c
    · rw [List.cons_append, place_pass _ pass.1 pass.2, place_pass _ pass.1 pass.2, ih,
        List.cons_append]
    · rw [List.cons_append, place_stay _ (by omega), place_stay _ (by omega), List.cons_append,
        List.cons_append]

theorem place_starter {s : Char} (text : List Char) (starter : combiningClass s = 0) :
    place s text = s :: text := by
  cases text with
  | nil => rfl
  | cons next rest => exact place_stay rest (by omega)

theorem order_append_starter {s : Char} (front back : List Char) (starter : combiningClass s = 0) :
    order (front ++ s :: back) = order front ++ s :: order back := by
  induction front with
  | nil => exact place_starter (order back) starter
  | cons c front ih =>
    change place c (order (front ++ s :: back)) = place c (order front) ++ s :: order back
    rw [ih, place_append_starter _ _ starter]

theorem reach?_eq_none {base c : Char} {between : List Char} (apart : composite? base c = none) :
    reach? base between c = none := by
  unfold reach?
  rw [apart, ite_self]

theorem composeFrom_lone {s : Char} (lone : Lone s) (between rest : List Char) :
    composeFrom s between rest = s :: (between.reverse ++ compose rest) := by
  induction rest generalizing between with
  | nil => simp only [composeFrom, compose, List.append_nil]
  | cons c rest ih =>
    rw [composeFrom_of_none rest (reach?_eq_none (lone.first c))]
    unfold compose
    split
    · rfl
    · rw [ih, List.reverse_cons, List.append_assoc, List.singleton_append]

theorem composeFrom_append_lone {s : Char} (lone : Lone s) (base : Char)
    (between front back : List Char) :
    composeFrom base between (front ++ s :: back) =
      composeFrom base between front ++ s :: compose back := by
  induction front generalizing base between with
  | nil =>
    rw [List.nil_append, composeFrom_of_none back (reach?_eq_none (lone.second base)),
      if_pos lone.starter, composeFrom_lone lone]
    simp only [composeFrom, List.reverse_nil, List.nil_append, List.cons_append]
  | cons c front ih =>
    rw [List.cons_append]
    cases reached : reach? base between c with
    | some whole => rw [composeFrom_of_some _ reached, composeFrom_of_some _ reached, ih]
    | none =>
      rw [composeFrom_of_none _ reached, composeFrom_of_none _ reached]
      split
      · rw [ih, List.cons_append, List.append_assoc]
      · exact ih base (c :: between)

theorem compose_append_lone {s : Char} (lone : Lone s) (front back : List Char) :
    compose (front ++ s :: back) = compose front ++ s :: compose back := by
  induction front with
  | nil =>
    simp only [List.nil_append, compose, lone.starter, ↓reduceIte]
    exact composeFrom_lone lone [] back
  | cons c front ih =>
    simp only [List.cons_append, compose]
    split
    · exact composeFrom_append_lone lone c [] front back
    · exact congrArg (c :: ·) ih

/-- The stretches on both sides of a lone character are composed each on its own. -/
theorem composed_append_lone {s : Char} (lone : Lone s) (front back : List Char) :
    composed (front ++ s :: back) = composed front ++ s :: composed back := by
  unfold composed
  rw [decompose_append, decompose_cons, lone.single, List.singleton_append,
    order_append_starter _ _ lone.starter, compose_append_lone lone]

theorem mem_composeFrom_lone {s : Char} (lone : Lone s) (base : Char) (between rest : List Char)
    (member : s ∈ composeFrom base between rest) : s = base ∨ s ∈ between ∨ s ∈ rest := by
  induction rest generalizing base between with
  | nil =>
    simp only [composeFrom, List.mem_cons, List.mem_reverse] at member
    exact member.imp id Or.inl
  | cons c rest ih =>
    cases reached : reach? base between c with
    | some whole =>
      rw [composeFrom_of_some rest reached] at member
      rcases ih whole between member with rfl | inside | later
      · exact absurd (composite?_of_reach? reached) (lone.whole base c)
      · exact Or.inr (Or.inl inside)
      · exact Or.inr (Or.inr (List.mem_cons_of_mem c later))
    | none =>
      rw [composeFrom_of_none rest reached] at member
      split at member
      · simp only [List.mem_cons, List.mem_append, List.mem_reverse] at member ⊢
        rcases member with same | inside | later
        · exact Or.inl same
        · exact Or.inr (Or.inl inside)
        · rcases ih c [] later with same | inside | later
          · exact Or.inr (Or.inr (Or.inl same))
          · exact absurd inside List.not_mem_nil
          · exact Or.inr (Or.inr (Or.inr later))
      · rcases ih base (c :: between) member with same | inside | later
        · exact Or.inl same
        · rcases List.mem_cons.mp inside with same | inside
          · exact Or.inr (Or.inr (List.mem_cons.mpr (Or.inl same)))
          · exact Or.inr (Or.inl inside)
        · exact Or.inr (Or.inr (List.mem_cons_of_mem c later))

theorem mem_compose_lone {s : Char} (lone : Lone s) {text : List Char}
    (member : s ∈ compose text) : s ∈ text := by
  induction text with
  | nil => exact member
  | cons c rest ih =>
    unfold compose at member
    split at member
    · rcases mem_composeFrom_lone lone c [] rest member with rfl | inside | later
      · exact List.mem_cons_self
      · exact absurd inside List.not_mem_nil
      · exact List.mem_cons_of_mem c later
    · rcases List.mem_cons.mp member with rfl | later
      · exact List.mem_cons_self
      · exact List.mem_cons_of_mem c (ih later)

/-- Composing a text brings in no lone character. -/
theorem mem_composed_lone {s : Char} (lone : Lone s) {text : List Char}
    (member : s ∈ composed text) : s ∈ text := by
  have ordered := (order_perm (decompose text)).mem_iff.mp (mem_compose_lone lone member)
  obtain ⟨c, inside, part⟩ := List.mem_flatMap.mp ordered
  exact lone.image c part ▸ inside

theorem composed_eq_nil_iff {text : List Char} : composed text = [] ↔ text = [] := by
  constructor
  · intro empty
    have full := (decomposed_decompose text).order
    have same : order (decompose (composed text)) = order (decompose text) :=
      order_decompose_compose full (ordered_order (decompose text))
    rw [empty] at same
    have none : decompose text = [] := ((order_perm _).symm.trans (.of_eq same.symm)).eq_nil
    cases text with
    | nil => rfl
    | cons c rest =>
      rw [decompose_cons, List.append_eq_nil_iff] at none
      exact absurd none.1 (decomposeChar_ne_nil c)
  · rintro rfl
    rfl

/-- Composing neither makes nor changes a text of a single lone character. -/
theorem composed_eq_lone_iff {s : Char} (lone : Lone s) {text : List Char} :
    composed text = [s] ↔ text = [s] := by
  constructor
  · intro single
    have inside : s ∈ text := mem_composed_lone lone (single ▸ List.mem_cons_self)
    obtain ⟨front, back, rfl⟩ := List.append_of_mem inside
    rw [composed_append_lone lone, List.append_eq_singleton_iff] at single
    rcases single with ⟨before, after⟩ | ⟨-, none⟩
    · rw [List.cons.injEq, composed_eq_nil_iff] at after
      rw [composed_eq_nil_iff.mp before, after.2, List.nil_append]
    · cases none
  · rintro rfl
    exact composed_append_lone lone [] []

/-- A character below all that the tables list. -/
def Plain (c : Char) : Prop := c.toNat < 0xC0

instance (c : Char) : Decidable (Plain c) := inferInstanceAs (Decidable (c.toNat < 0xC0))

theorem Plain.combiningClass_eq {c : Char} (plain : Plain c) : combiningClass c = 0 := by
  have high : (combiningClasses.all fun line => Nat.ble 0x300 line.1) = true := by decide +kernel
  apply combiningClass_eq_zero
  rw [List.all_eq_true] at high ⊢
  intro line member
  have first := Nat.le_of_ble_eq_true (high line member)
  have before : c.toNat < line.1 := Nat.lt_of_lt_of_le (Nat.lt_trans plain (by decide)) first
  simp only [Bool.or_eq_true, Nat.blt_eq]
  exact Or.inl before

theorem Plain.decomposeChar_eq {c : Char} (plain : Plain c) : decomposeChar c = [c] := by
  have low : c.toNat < 0xC0 := plain
  simp only [decomposeChar, low, ↓reduceIte]

theorem decompose_of_plain {text : List Char} (plain : ∀ c ∈ text, Plain c) :
    decompose text = text := by
  apply Decomposed.decompose_eq
  intro c member
  exact (plain c member).decomposeChar_eq

theorem order_of_plain {text : List Char} (plain : ∀ c ∈ text, Plain c) : order text = text := by
  induction text with
  | nil => rfl
  | cons c rest ih =>
    have starter := (plain c List.mem_cons_self).combiningClass_eq
    rw [order, ih fun d member => plain d (List.mem_cons_of_mem c member),
      place_starter rest starter]

theorem composeFrom_of_plain {base : Char} {rest : List Char} (plain : ∀ c ∈ rest, Plain c) :
    composeFrom base [] rest = base :: rest := by
  induction rest generalizing base with
  | nil => rfl
  | cons c rest ih =>
    have first := plain c List.mem_cons_self
    have early : c.toNat < 0x300 := Nat.lt_trans first (by decide)
    have apart : composite? base c = none := by simp only [composite?, early, ↓reduceIte]
    rw [composeFrom_of_none rest (reach?_eq_none apart), if_pos first.combiningClass_eq,
      ih fun d member => plain d (List.mem_cons_of_mem c member)]
    rfl

/-- A text of such characters is its own composed form. -/
theorem composed_of_plain {text : List Char} (plain : ∀ c ∈ text, Plain c) :
    composed text = text := by
  unfold composed
  rw [decompose_of_plain plain, order_of_plain plain]
  cases text with
  | nil => rfl
  | cons c rest =>
    rw [compose, if_pos (plain c List.mem_cons_self).combiningClass_eq,
      composeFrom_of_plain fun d member => plain d (List.mem_cons_of_mem c member)]

/-- Where composing leaves nothing but such characters, it has taken none of them away. -/
theorem mem_composed_of_plain {text : List Char} (all : ∀ d ∈ composed text, Plain d) {c : Char}
    (plain : Plain c) (inside : c ∈ text) : c ∈ composed text := by
  have full := (decomposed_decompose text).order
  have same : order (decompose (composed text)) = order (decompose text) :=
    order_decompose_compose full (ordered_order (decompose text))
  rw [decompose_of_plain all, order_of_plain all] at same
  have part : c ∈ decompose text :=
    List.mem_flatMap.mpr ⟨c, inside, plain.decomposeChar_eq ▸ List.mem_singleton.mpr rfl⟩
  rw [same]
  exact (order_perm _).mem_iff.mpr part

end BootSnapshot.Text.Canonical
