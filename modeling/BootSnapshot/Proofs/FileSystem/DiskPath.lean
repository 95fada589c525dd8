import BootSnapshot.FileSystem.DiskPath
import BootSnapshot.Proofs.Component.Path

set_option autoImplicit false

namespace BootSnapshot

namespace DiskPath

open Text ComponentPath

structure IsName (name : List Char) : Prop where
  nonempty : name ≠ []
  unsplit : '/' ∉ name
  not_here : name ≠ ['.']
  not_up : name ≠ ['.', '.']

instance (name : List Char) : Decidable (IsName name) :=
  decidable_of_iff (name ≠ [] ∧ '/' ∉ name ∧ name ≠ ['.'] ∧ name ≠ ['.', '.'])
    ⟨fun ⟨nonempty, unsplit, here, up⟩ => ⟨nonempty, unsplit, here, up⟩,
      fun named => ⟨named.nonempty, named.unsplit, named.not_here, named.not_up⟩⟩

theorem IsName.isStep {name : List Char} (named : IsName name) : isStep name = true := by
  simp [ComponentPath.isStep, named.nonempty, named.not_here]

theorem IsName.fileParts_eq {name : List Char} (named : IsName name) : fileParts name = [name] := by
  unfold fileParts
  rw [pieces_of_not_mem named.unsplit]
  split
  · rename_i same
    exact absurd (List.cons.inj same).1 named.nonempty
  · rename_i same
    exact absurd (List.cons.inj same).1 named.not_here
  · rw [List.filter_cons_of_pos named.isStep, List.filter_nil]

def opening (stretch : List Char) : List Char := if stretch = [] then ['/'] else stretch

/-- The first stretch counts whatever it is, the others count if they lead anywhere. -/
theorem fileParts_of_pieces {path first : List Char} {others : List (List Char)}
    (filled : path ≠ []) (cut : pieces '/' path = first :: others) :
    fileParts path = opening first :: others.filter isStep := by
  unfold fileParts opening
  rw [cut]
  by_cases root : first = []
  · subst root
    simp [filled]
  · by_cases here : first = ['.']
    · subst here
      simp
    · have step : isStep first = true := by simp [isStep, root, here]
      rw [if_neg root]
      split
      · rename_i same
        exact absurd (List.cons.inj same).1 root
      · rename_i same
        exact absurd (List.cons.inj same).1 here
      · exact List.filter_cons_of_pos step

theorem exists_pieces (path : List Char) :
    ∃ first others, pieces '/' path = first :: others :=
  List.exists_cons_of_ne_nil (pieces_ne_nil '/' path)

theorem mem_fileParts {path part : List Char} (member : part ∈ fileParts path) :
    part = ['/'] ∨ part ∈ pieces '/' path := by
  by_cases empty : path = []
  · rw [empty] at member
    cases member
  · obtain ⟨first, others, cut⟩ := exists_pieces path
    rw [fileParts_of_pieces empty cut, opening] at member
    rw [cut]
    rcases List.mem_cons.mp member with rfl | later
    · split
      · exact Or.inl rfl
      · exact Or.inr List.mem_cons_self
    · exact Or.inr (List.mem_cons_of_mem _ (List.mem_filter.mp later).1)

/-- What follows a slash adds its steps. -/
theorem fileParts_append (front back : List Char) :
    fileParts (front ++ '/' :: back) =
      fileParts (front ++ ['/']) ++ (pieces '/' back).filter isStep := by
  obtain ⟨first, others, cut⟩ := exists_pieces front
  have whole : pieces '/' (front ++ '/' :: back) = first :: (others ++ pieces '/' back) := by
    rw [pieces_append, cut, List.cons_append]
  have start : pieces '/' (front ++ ['/']) = first :: (others ++ [[]]) := by
    rw [pieces_append, cut, List.cons_append]
    rfl
  rw [fileParts_of_pieces (by simp) whole, fileParts_of_pieces (by simp) start,
    List.filter_append, List.filter_append, List.cons_append]
  congr 2
  exact (List.append_nil _).symm

/-- A slash at the end of a path adds nothing. -/
theorem fileParts_slash {path : List Char} (filled : path ≠ []) :
    fileParts (path ++ ['/']) = fileParts path := by
  obtain ⟨first, others, cut⟩ := exists_pieces path
  have start : pieces '/' (path ++ ['/']) = first :: (others ++ [[]]) := by
    rw [pieces_append, cut, List.cons_append]
    rfl
  rw [fileParts_of_pieces (by simp) start, fileParts_of_pieces filled cut, List.filter_append]
  exact congrArg (opening first :: ·) (List.append_nil _)

/-- What does not start at the root adds its steps to a base. -/
theorem fileParts_joinChars_of_relative {base rest : List Char} (filled : base ≠ [])
    (relative : rest.head? ≠ some '/') :
    fileParts (joinChars base rest) = fileParts base ++ (pieces '/' rest).filter isStep := by
  unfold joinChars
  rw [if_neg (not_or.mpr ⟨relative, filled⟩)]
  by_cases slash : base.getLast? = some '/'
  · obtain ⟨front, rfl⟩ := List.getLast?_eq_some_iff.mp slash
    rw [if_pos slash, List.append_assoc, List.singleton_append, fileParts_append]
  · rw [if_neg slash, fileParts_append, fileParts_slash filled]

/-- The path of a member has the parts of the directory's path and then the name of the member. -/
theorem fileParts_joinChars (base : List Char) {name : List Char} (named : IsName name) :
    fileParts (joinChars base name) = fileParts base ++ [name] := by
  have relative : name.head? ≠ some '/' := fun first => named.unsplit (List.mem_of_mem_head? first)
  by_cases empty : base = []
  · rw [joinChars, if_pos (Or.inr empty), empty, named.fileParts_eq]
    rfl
  · rw [fileParts_joinChars_of_relative empty relative, pieces_of_not_mem named.unsplit,
      List.filter_cons_of_pos named.isStep, List.filter_nil]

theorem toList_join (base rest : String) :
    (join base rest).toList = joinChars base.toList rest.toList :=
  String.toList_ofList

/-- A path that ends in a name has it as its last one. -/
theorem lastName?_of_getLast? {path : String} {name : List Char} (named : IsName name)
    (last : (fileParts path.toList).getLast? = some name) : lastName? path = some name := by
  have root : name ≠ ['/'] := fun same => named.unsplit (same ▸ List.mem_singleton.mpr rfl)
  unfold lastName?
  rw [last]
  simp [Option.filter, root, named.not_here, named.not_up]

theorem lastName?_of_isName {name : String} (named : IsName name.toList) :
    lastName? name = some name.toList := by
  apply lastName?_of_getLast? named
  rw [named.fileParts_eq, List.getLast?_singleton]

theorem lastName?_join (base : String) {name : String} (named : IsName name.toList) :
    lastName? (join base name) = some name.toList := by
  apply lastName?_of_getLast? named
  rw [toList_join, fileParts_joinChars base.toList named, List.getLast?_concat]

/-- The name at the end of a path is part of its text. -/
theorem mem_of_lastName? {path : String} {name : List Char} (last : lastName? path = some name)
    {c : Char} (inside : c ∈ name) : c ∈ path.toList := by
  unfold lastName? at last
  obtain ⟨found, proper⟩ := Option.filter_eq_some_iff.mp last
  have root : name ≠ ['/'] := by
    rintro rfl
    cases proper
  have piece := (mem_fileParts (List.mem_of_getLast? found)).resolve_left root
  exact mem_of_mem_pieces piece inside

theorem nameExtension?_append (front : List Char) {last : List Char} (absent : '.' ∉ last) :
    nameExtension? (front ++ '.' :: last) = if front = [] then none else some last := by
  unfold nameExtension?
  rw [pieces_append, pieces_of_not_mem absent, List.reverse_append]
  by_cases empty : front = []
  · simp [empty, pieces]
  · have several : pieces '.' front ≠ [[]] := fun same => empty (pieces_eq_singleton_nil same)
    simp [empty, several, pieces_ne_nil]

/-- The extension of a name is what follows its last point, if something stands before it. -/
theorem nameExtension?_eq_some_iff {name ending : List Char} :
    nameExtension? name = some ending ↔
      ∃ stem, name = stem ++ '.' :: ending ∧ stem ≠ [] ∧ '.' ∉ ending := by
  constructor
  · intro found
    rcases last_piece_cases '.' name with absent | ⟨front, last, rfl, absent⟩
    · simp [nameExtension?, pieces_of_not_mem absent] at found
    · rw [nameExtension?_append front absent] at found
      split at found
      · cases found
      · rename_i filled
        obtain rfl := Option.some_inj.mp found
        exact ⟨front, rfl, filled, absent⟩
  · rintro ⟨stem, rfl, filled, absent⟩
    rw [nameExtension?_append stem absent, if_neg filled]

theorem extension?_join (base : String) {name : String} (named : IsName name.toList) :
    extension? (join base name) = (nameExtension? name.toList).map String.ofList := by
  unfold extension?
  rw [lastName?_join base named, Option.bind_some]

theorem below?_of_append {base path : List Char} {rest : List (List Char)}
    (inside : fileParts path = fileParts base ++ rest) : below? base path = some rest := by
  have starts : (fileParts base).isPrefixOf (fileParts path) = true := by
    rw [List.isPrefixOf_iff_prefix, inside]
    exact List.prefix_append _ _
  rw [below?, if_pos starts, inside, List.drop_left]

theorem relative?_of_append {base path : String} {rest : List (List Char)}
    (inside : fileParts path.toList = fileParts base.toList ++ rest) :
    relative? base path =
      some (ComponentPath.normalize ("/".intercalate (rest.map String.ofList))) := by
  unfold relative? ComponentPath.normalize
  rw [below?_of_append inside, Option.map_some, String.toList_intercalate, List.map_map]
  congr 3
  simp [Function.comp_def]

/-- The path that names lead to from a directory on. -/
def follow (directory : String) (names : List String) : String := names.foldl join directory

theorem fileParts_follow (directory : String) {names : List String}
    (named : ∀ name ∈ names, IsName name.toList) :
    fileParts (follow directory names).toList =
      fileParts directory.toList ++ names.map String.toList := by
  induction names generalizing directory with
  | nil => simp [follow]
  | cons name rest ih =>
    have first := named name List.mem_cons_self
    have later := ih (join directory name) fun other member =>
      named other (List.mem_cons_of_mem name member)
    rw [follow, List.foldl_cons]
    refine later.trans ?_
    rw [toList_join, fileParts_joinChars directory.toList first, List.append_assoc,
      List.singleton_append, List.map_cons]

/-- What leads from a directory to something below it are the names on the way. -/
theorem relative?_follow (directory : String) {names : List String}
    (named : ∀ name ∈ names, IsName name.toList) :
    relative? directory (follow directory names) =
      some (ComponentPath.normalize ("/".intercalate names)) := by
  have names_eq : (names.map String.toList).map String.ofList = names := by
    rw [List.map_map]
    simp [Function.comp_def]
  rw [relative?_of_append (fileParts_follow directory named), names_eq]

end DiskPath
end BootSnapshot
