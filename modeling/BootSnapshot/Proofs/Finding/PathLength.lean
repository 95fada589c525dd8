import BootSnapshot.Finding.PathLength
import BootSnapshot.Proofs.Finding.Item

set_option autoImplicit false

namespace BootSnapshot.Finding

/-- A value of an item of a list counts as a path. The way leads from the item to the field that
holds it; paths inside a bundle have the path of the bundle in front. -/
inductive Bears : Target → Node → Path → String → Prop where
  | path {target : Target} {fields : Dictionary Node} {value : String} : target ≠ .kernelAdd →
    fields.text? Field.path = some value →
      Bears target (.dictionary fields) [.key Field.path] value
  | bare {value : String} : Bears .uefiDrivers (.ofText value) [] value
  | bundle {fields : Dictionary Node} {bundle : String} :
    fields.text? Field.bundlePath = some bundle →
      Bears .kernelAdd (.dictionary fields) [.key Field.bundlePath] bundle
  | inside {fields : Dictionary Node} {bundle inner field : String} :
    fields.text? Field.bundlePath = some bundle →
      field = Field.executablePath ∨ field = Field.plistPath →
        fields.text? field = some inner → inner ≠ "" →
          Bears .kernelAdd (.dictionary fields) [.key field] (bundle ++ "/" ++ inner)

theorem Bears.eq_of_bare {target : Target} {text value : String} {way : Path}
    (bears : Bears target (.ofText text) way value) : value = text := by
  cases bears
  rfl

def longPathsOf (target : Target) (entry : Node × Nat) : List Finding :=
  ((heldPaths target (target.path ++ [.index entry.2]) entry.1).filter fun held =>
    maxPathLength < held.2.length).map fun held => .pathTooLong held.1 held.2

theorem longPathsFrom_eq (target : Target) (index : Nat) (items : List Node) :
    longPathsFrom target index items = (items.zipIdx index).flatMap (longPathsOf target) := by
  induction items generalizing index with
  | nil => rfl
  | cons item rest ih =>
    rw [List.zipIdx_cons, List.flatMap_cons, ← ih]
    rfl

theorem mem_insideBundle_iff {place path : Path} {bundle value field : String}
    {fields : Dictionary Node} :
    (path, value) ∈ insideBundle place bundle fields field ↔
      ∃ inner, fields.text? field = some inner ∧ inner ≠ "" ∧ path = place ++ [.key field] ∧
        value = bundle ++ "/" ++ inner := by
  unfold insideBundle
  cases held : fields.text? field with
  | none => simp only [List.not_mem_nil, reduceCtorEq, false_and, exists_false]
  | some inner =>
    by_cases empty : inner = ""
    · simp only [empty, ↓reduceIte, List.not_mem_nil, Option.some.injEq, ne_eq, exists_eq_left',
        not_true_eq_false, false_and]
    · simp only [empty, ↓reduceIte, List.mem_singleton, Prod.mk.injEq, Option.some.injEq, ne_eq,
        exists_eq_left', not_false_eq_true, true_and]

theorem mem_heldPaths_kext_iff {place path : Path} {fields : Dictionary Node} {value : String} :
    (path, value) ∈ heldPaths .kernelAdd place (.dictionary fields) ↔
      ∃ bundle, fields.text? Field.bundlePath = some bundle ∧
        (path = place ++ [.key Field.bundlePath] ∧ value = bundle ∨
          (path, value) ∈ insideBundle place bundle fields Field.executablePath ∨
          (path, value) ∈ insideBundle place bundle fields Field.plistPath) := by
  unfold heldPaths
  dsimp only
  cases held : fields.text? Field.bundlePath with
  | none => simp only [List.not_mem_nil, reduceCtorEq, false_and, exists_false]
  | some bundle =>
    simp only [List.mem_cons, Prod.mk.injEq, List.mem_append, Option.some.injEq, exists_eq_left']

theorem mem_heldPaths_dictionary_iff {target : Target} (other : target ≠ .kernelAdd)
    {place path : Path} {fields : Dictionary Node} {value : String} :
    (path, value) ∈ heldPaths target place (.dictionary fields) ↔
      fields.text? Field.path = some value ∧ path = place ++ [.key Field.path] := by
  unfold heldPaths
  dsimp only
  split
  · exact absurd rfl other
  · split
    · rename_i text held
      simp only [held, List.mem_singleton, Prod.mk.injEq, Option.some.injEq]
      constructor
      · rintro ⟨rfl, rfl⟩
        exact ⟨rfl, rfl⟩
      · rintro ⟨rfl, rfl⟩
        exact ⟨rfl, rfl⟩
    · rename_i held
      simp only [held, List.not_mem_nil, reduceCtorEq, false_and]

theorem mem_heldPaths_bare_iff {target : Target} {place path : Path} {item : Node} {value : String}
    (bare : item.dictionary? = none) :
    (path, value) ∈ heldPaths target place item ↔
      target = .uefiDrivers ∧ item = .ofText value ∧ path = place := by
  unfold heldPaths
  split
  · cases bare
  · rename_i text
    have same : Node.scalar (.string text) = .ofText value ↔ value = text := by
      simp only [Node.ofText, Node.scalar.injEq, Scalar.string.injEq, eq_comm]
    split
    · rename_i drivers
      rw [List.mem_singleton, Prod.mk.injEq, same]
      constructor
      · rintro ⟨rfl, rfl⟩
        exact ⟨drivers, rfl, rfl⟩
      · rintro ⟨-, rfl, rfl⟩
        exact ⟨rfl, rfl⟩
    · rename_i other
      simp only [List.not_mem_nil, other, false_and]
  · rename_i other
    simp only [List.not_mem_nil, false_iff]
    rintro ⟨-, rfl, -⟩
    exact absurd rfl (other value)

theorem mem_heldPaths_iff {target : Target} {place path : Path} {item : Node} {value : String} :
    (path, value) ∈ heldPaths target place item ↔
      ∃ way, Bears target item way value ∧ path = place ++ way := by
  cases shape : item.dictionary? with
  | none =>
    rw [mem_heldPaths_bare_iff shape]
    constructor
    · rintro ⟨rfl, rfl, rfl⟩
      exact ⟨[], .bare, (List.append_nil path).symm⟩
    · rintro ⟨way, bears, rfl⟩
      cases bears with
      | bare => exact ⟨rfl, rfl, List.append_nil place⟩
      | path | bundle | inside => cases shape
  | some fields =>
    obtain rfl := Node.eq_of_dictionary? shape
    by_cases kext : target = .kernelAdd
    · subst kext
      rw [mem_heldPaths_kext_iff]
      constructor
      · rintro ⟨bundle, held, ⟨rfl, rfl⟩ | inside | inside⟩
        · exact ⟨_, .bundle held, rfl⟩
        · obtain ⟨inner, found, filled, rfl, rfl⟩ := mem_insideBundle_iff.mp inside
          exact ⟨_, .inside held (Or.inl rfl) found filled, rfl⟩
        · obtain ⟨inner, found, filled, rfl, rfl⟩ := mem_insideBundle_iff.mp inside
          exact ⟨_, .inside held (Or.inr rfl) found filled, rfl⟩
      · rintro ⟨way, bears, rfl⟩
        cases bears with
        | path other => exact absurd rfl other
        | bundle held => exact ⟨_, held, Or.inl ⟨rfl, rfl⟩⟩
        | inside held field found filled =>
          refine ⟨_, held, Or.inr ?_⟩
          rcases field with rfl | rfl
          · exact Or.inl (mem_insideBundle_iff.mpr ⟨_, found, filled, rfl, rfl⟩)
          · exact Or.inr (mem_insideBundle_iff.mpr ⟨_, found, filled, rfl, rfl⟩)
    · rw [mem_heldPaths_dictionary_iff kext]
      constructor
      · rintro ⟨held, rfl⟩
        exact ⟨_, .path kext held, rfl⟩
      · rintro ⟨way, bears, rfl⟩
        cases bears with
        | path _ held => exact ⟨held, rfl⟩
        | bundle | inside => exact absurd rfl kext

theorem mem_longPathsOf_iff {target : Target} {item : Node} {index : Nat} {finding : Finding} :
    finding ∈ longPathsOf target (item, index) ↔ ∃ way value, Bears target item way value ∧
      128 < value.length ∧ finding = .pathTooLong (target.path ++ .index index :: way) value := by
  unfold longPathsOf
  simp only [List.mem_map, List.mem_filter, decide_eq_true_eq, Prod.exists, mem_heldPaths_iff]
  constructor
  · rintro ⟨_, value, ⟨⟨way, bears, rfl⟩, long⟩, rfl⟩
    exact ⟨way, value, bears, long, by rw [List.append_assoc, List.singleton_append]⟩
  · rintro ⟨way, value, bears, long, rfl⟩
    exact ⟨_, value, ⟨⟨way, bears, rfl⟩, long⟩, by rw [List.append_assoc, List.singleton_append]⟩

theorem mem_longPaths_iff {document : Document} {finding : Finding} :
    finding ∈ longPaths document ↔ ∃ target index item way value,
      itemAt? document target index = some item ∧ Bears target item way value ∧
        128 < value.length ∧
        finding = .pathTooLong (target.path ++ .index index :: way) value := by
  unfold longPaths
  simp only [longPathsFrom_eq, List.mem_flatMap]
  constructor
  · rintro ⟨target, -, ⟨item, index⟩, entry, found⟩
    obtain ⟨way, value, told⟩ := mem_longPathsOf_iff.mp found
    rw [List.mk_mem_zipIdx_iff_getElem?, getElem?_getD_items?] at entry
    exact ⟨target, index, item, way, value, entry, told⟩
  · rintro ⟨target, index, item, way, value, held, told⟩
    rw [← getElem?_getD_items?] at held
    exact ⟨target, target.mem_all, (item, index), List.mk_mem_zipIdx_iff_getElem?.mpr held,
      mem_longPathsOf_iff.mpr ⟨way, value, told⟩⟩

theorem insideBundle_sublist (place : Path) (bundle : String) (fields : Dictionary Node)
    (field : String) : ∃ value,
      (insideBundle place bundle fields field).Sublist [(place ++ [.key field], value)] := by
  unfold insideBundle
  split
  · split
    · exact ⟨"", List.nil_sublist _⟩
    · exact ⟨_, List.Sublist.refl _⟩
  · exact ⟨"", List.nil_sublist _⟩

theorem pairwise_heldPaths (target : Target) (place : Path) (item : Node) :
    ((heldPaths target place item).map Prod.fst).Pairwise fun one other => ∃ way way',
      [way, way'].Sublist kextWays ∧ one = place ++ way ∧ other = place ++ way' := by
  have ordered : kextWays.Pairwise fun way way' => [way, way'].Sublist kextWays := by decide
  unfold heldPaths
  split
  · rename_i fields
    split
    · split
      · rename_i bundle _
        obtain ⟨executable, first⟩ := insideBundle_sublist place bundle fields Field.executablePath
        obtain ⟨plist, second⟩ := insideBundle_sublist place bundle fields Field.plistPath
        have all : (kextWays.map (place ++ ·)).Pairwise fun one other => ∃ way way',
            [way, way'].Sublist kextWays ∧ one = place ++ way ∧ other = place ++ way' :=
          List.pairwise_map.mpr (ordered.imp fun before => ⟨_, _, before, rfl, rfl⟩)
        exact all.sublist (((first.append second).cons_cons _).map Prod.fst)
      · exact List.Pairwise.nil
    · split
      · exact List.pairwise_singleton _ _
      · exact List.Pairwise.nil
  · split
    · exact List.pairwise_singleton _ _
    · exact List.Pairwise.nil
  · exact List.Pairwise.nil

theorem pairwise_longPaths (document : Document) :
    (longPaths document).Pairwise fun one other => Precedes one.path other.path := by
  refine pairwise_lists ?_ ?_
  · intro target finding member
    rw [longPathsFrom_eq] at member
    obtain ⟨entry, -, found⟩ := List.mem_flatMap.mp member
    obtain ⟨way, value, -, -, rfl⟩ := mem_longPathsOf_iff.mp found
    exact ⟨entry.2, way, rfl⟩
  · intro target
    rw [longPathsFrom_eq]
    refine List.pairwise_flatMap.mpr ⟨?_, (pairwise_zipIdx _ 0).imp ?_⟩
    · intro entry _
      have ways := pairwise_heldPaths target (target.path ++ [.index entry.2]) entry.1
      rw [List.pairwise_map] at ways
      refine List.pairwise_map.mpr ((ways.filter _).imp ?_)
      rintro one other ⟨way, way', before, first, second⟩
      simp only [path, first, second, List.append_assoc, List.singleton_append]
      exact .fields before
    · intro entry entry' before one first other second
      obtain ⟨way, value, -, -, rfl⟩ := mem_longPathsOf_iff.mp first
      obtain ⟨way', value', -, -, rfl⟩ := mem_longPathsOf_iff.mp second
      exact .positions before

/-- An item with more behind one of its texts. -/
inductive Lengthened : Node → Node → Prop where
  | bare (text more : String) : Lengthened (.ofText text) (.ofText (text ++ more))
  | field {fields : Dictionary Node} {key text : String} (more : String) :
    fields.text? key = some text →
      Lengthened (.dictionary fields) (.dictionary (fields.insert key (.ofText (text ++ more))))

theorem text?_insert_longer {fields : Dictionary Node} {key text : String}
    (held : fields.text? key = some text) (more : String) {other value : String}
    (found : fields.text? other = some value) :
    ∃ rest, (fields.insert key (.ofText (text ++ more))).text? other = some (value ++ rest) := by
  by_cases same : other = key
  · subst same
    rw [held, Option.some_inj] at found
    subst found
    refine ⟨more, ?_⟩
    unfold Dictionary.text?
    rw [Dictionary.get?_insert_self]
    rfl
  · refine ⟨"", ?_⟩
    rw [Dictionary.text?_insert_ne _ _ same, found, String.append_empty]

theorem Bears.lengthened {target : Target} {item item' : Node} {way : Path} {value : String}
    (bears : Bears target item way value) (longer : Lengthened item item') :
    ∃ value', Bears target item' way value' ∧ value.length ≤ value'.length := by
  cases longer with
  | bare text more =>
    cases bears with
    | bare => exact ⟨_, .bare, by rw [String.length_append]; omega⟩
  | @field fields key text more held =>
    cases bears with
    | path other found =>
      obtain ⟨rest, found'⟩ := text?_insert_longer held more found
      exact ⟨_, .path other found', by rw [String.length_append]; omega⟩
    | bundle found =>
      obtain ⟨rest, found'⟩ := text?_insert_longer held more found
      exact ⟨_, .bundle found', by rw [String.length_append]; omega⟩
    | @inside _ bundle inner field found either foundInner filled =>
      obtain ⟨rest, found'⟩ := text?_insert_longer held more found
      obtain ⟨restInner, foundInner'⟩ := text?_insert_longer held more foundInner
      have filled' : inner ++ restInner ≠ "" := by
        intro empty
        exact filled (String.append_eq_empty_iff.mp empty).1
      refine ⟨_, .inside found' either foundInner' filled', ?_⟩
      simp only [String.length_append]
      omega

/-- The check for long paths reports every value that counts as a path and has more than 128
characters, and nothing else, in the order of the document and no two at one place. Its findings are
errors. An item whose texts get longer keeps its findings. A kext whose bundle path alone is too
long has a finding for each path inside the bundle. -/
theorem longPaths_exact (document : Document) :
    (∀ finding, finding ∈ longPaths document ↔ ∃ target index item way value,
      itemAt? document target index = some item ∧ Bears target item way value ∧
        128 < value.length ∧
        finding = .pathTooLong (target.path ++ .index index :: way) value) ∧
    ((longPaths document).Pairwise fun one other =>
      Precedes one.path other.path ∧ one.path ≠ other.path) ∧
    (∀ finding ∈ longPaths document, finding.severity = .error) ∧
    (∀ later target index item item', itemAt? document target index = some item →
      itemAt? later target index = some item' → Lengthened item item' → ∀ way value,
        .pathTooLong (target.path ++ .index index :: way) value ∈ longPaths document →
          ∃ value', .pathTooLong (target.path ++ .index index :: way) value' ∈ longPaths later) ∧
    ∀ index fields bundle, itemAt? document .kernelAdd index = some (.dictionary fields) →
      fields.text? Field.bundlePath = some bundle → 128 < bundle.length →
        ∀ field ∈ [Field.executablePath, Field.plistPath], ∀ inner,
          fields.text? field = some inner → inner ≠ "" →
            .pathTooLong (Target.kernelAdd.path ++ [.index index, .key field])
              (bundle ++ "/" ++ inner) ∈ longPaths document := by
  refine ⟨fun finding => mem_longPaths_iff, ?_, ?_, ?_, ?_⟩
  · exact (pairwise_longPaths document).imp fun before => ⟨before, before.ne⟩
  · intro finding member
    obtain ⟨_, _, _, _, _, -, -, -, rfl⟩ := mem_longPaths_iff.mp member
    rfl
  · intro later target index item item' held held' longer way value member
    obtain ⟨target', index', item'', way', value'', found, bears, long, same⟩ :=
      mem_longPaths_iff.mp member
    obtain ⟨place, rfl⟩ := Finding.pathTooLong.inj same
    obtain ⟨rfl, rfl, rfl⟩ := place_injective place
    rw [held, Option.some_inj] at found
    subst found
    obtain ⟨value', bears', grown⟩ := bears.lengthened longer
    exact ⟨value', mem_longPaths_iff.mpr
      ⟨target, index, item', way, value', held', bears', Nat.lt_of_lt_of_le long grown, rfl⟩⟩
  · intro index fields bundle held found long field either inner foundInner filled
    have either : field = Field.executablePath ∨ field = Field.plistPath := by
      simpa only [List.mem_cons, List.not_mem_nil, or_false] using either
    refine mem_longPaths_iff.mpr ⟨.kernelAdd, index, _, _, _, held,
      .inside found either foundInner filled, ?_, rfl⟩
    simp only [String.length_append]
    omega

/-- A document with a kext, whose executable is in the bundle of the given path, and a bare
driver. -/
def pathDocument (bundle driver : String) : Document :=
  ⟨⟨[("Kernel", .dictionary ⟨[("Add", .sequence [.dictionary
      ⟨[(Field.bundlePath, .ofText bundle), (Field.executablePath, .ofText "x"),
        (Field.plistPath, .ofText "")]⟩])]⟩),
    ("UEFI", .dictionary ⟨[("Drivers", .sequence [.ofText driver])]⟩)]⟩⟩

/-- A bundle path that is too long is reported with the executable too. A driver of 128 characters
is not reported, but it is with one more. -/
theorem pathDocument_reported :
    let bundle := String.ofList (List.replicate 129 'b')
    let driver := String.ofList (List.replicate 128 'd')
    let document := pathDocument bundle driver
    128 < bundle.length ∧
    .pathTooLong (Target.kernelAdd.path ++ [.index 0, .key Field.executablePath])
      (bundle ++ "/" ++ "x") ∈ longPaths document ∧
    (∀ value, .pathTooLong (Target.uefiDrivers.path ++ [.index 0]) value ∉ longPaths document) ∧
    .pathTooLong (Target.uefiDrivers.path ++ [.index 0]) (driver ++ "d") ∈
      longPaths (pathDocument bundle (driver ++ "d")) ∧
    ∃ value, .pathTooLong (Target.uefiDrivers.path ++ [.index 0]) value ∈
      longPaths (pathDocument bundle (driver ++ "d" ++ "d")) := by
  intro bundle driver document
  obtain ⟨exact', -, -, -, inside⟩ := longPaths_exact document
  obtain ⟨exact'', -, -, kept, -⟩ := longPaths_exact (pathDocument bundle (driver ++ "d"))
  have long : 128 < bundle.length := by decide +kernel
  have grown : Finding.pathTooLong (Target.uefiDrivers.path ++ [.index 0]) (driver ++ "d") ∈
      longPaths (pathDocument bundle (driver ++ "d")) :=
    (exact'' _).mpr ⟨.uefiDrivers, 0, _, [], _, rfl, .bare, by decide +kernel, rfl⟩
  refine ⟨long, ?_, ?_, grown, ?_⟩
  · exact inside 0 _ bundle rfl rfl long _ List.mem_cons_self "x" rfl (by decide)
  · intro value member
    obtain ⟨target, index, item, way, value', held, bears, exceeds, same⟩ := (exact' _).mp member
    obtain ⟨place, rfl⟩ := Finding.pathTooLong.inj same
    obtain ⟨rfl, rfl, rfl⟩ := place_injective place
    rw [← Option.some_inj.mp held] at bears
    rw [bears.eq_of_bare] at exceeds
    revert exceeds
    decide +kernel
  · exact kept (pathDocument bundle (driver ++ "d" ++ "d")) .uefiDrivers 0 _ _ rfl rfl
      (.bare (driver ++ "d") "d") [] _ grown

end BootSnapshot.Finding
