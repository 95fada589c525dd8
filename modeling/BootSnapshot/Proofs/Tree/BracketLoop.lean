import BootSnapshot.Proofs.Text.Offset
import BootSnapshot.Proofs.Tree.WrittenPath

set_option autoImplicit false

namespace BootSnapshot.Path

open Text Bytes

/-- Why reading by offsets ends without a result. -/
inductive Stop where
  | malformed
  | outOfBounds
deriving DecidableEq

/-- A result that is missing only where the text is malformed. -/
def orMalformed {α : Type} : Option α → Except Stop α
  | some result => .ok result
  | none => .error .malformed

def cutAt (offset : Nat) (text : List Char) : Except Stop (List Char × List Char) :=
  match cut? offset text with
  | some cut => .ok cut
  | none => .error .outOfBounds

def slice (start stop : Nat) (text : List Char) : Except Stop (List Char) :=
  (cutAt stop text).bind fun cut => (cutAt start cut.1).map Prod.snd

/-- A part before its first opening bracket, and from there on. -/
def splitPart (part : List Char) : Except Stop (List Char × List Char) :=
  match offset? '[' part with
  | some opening => cutAt opening part
  | none => .ok (part, [])

/-- One round: the index in the brackets that the text begins with, and the text behind them, which
must be empty or begin with brackets again. -/
def readRound (left : List Char) : Except Stop (Nat × List Char) :=
  match offset? ']' left with
  | none => .error .malformed
  | some close =>
    (slice 1 close left).bind fun digits =>
      (orMalformed (Decimal.readUnsigned? 10 Decimal.unsignedLimit digits)).bind fun position =>
        (cutAt (close + 1) left).bind fun cut =>
          if cut.2 = [] ∨ cut.2.head? = some '[' then .ok (position, cut.2)
          else .error .malformed

/-- Round after round until the text is empty; nothing if that takes more rounds than allowed. -/
def readRounds (allowed : Nat) (left : List Char) : Option (Except Stop (List Nat)) :=
  if left = [] then some (.ok [])
  else
    match allowed with
    | 0 => none
    | allowed + 1 =>
      match readRound left with
      | .error stop => some (.error stop)
      | .ok (position, rest) => (readRounds allowed rest).map (·.map (position :: ·))

/-- The steps of a part, read in rounds: each round looks for the next closing bracket, cuts the
text there by offsets that are counted in bytes, and goes on behind it. -/
def readPartByOffsets (allowed : Nat) (part : List Char) : Option (Except Stop Path) :=
  match splitPart part with
  | .error stop => some (.error stop)
  | .ok (name, brackets) =>
    if name = [] then some (.error .malformed)
    else (readRounds allowed brackets).map
      (·.map fun positions => .key (String.ofList name) :: positions.map .index)

/-- The steps of all parts, up to the first one that cannot be read. -/
def readPartsByOffsets (allowed : Nat) : List (List Char) → Option (Except Stop Path)
  | [] => some (.ok [])
  | part :: rest =>
    match readPartByOffsets allowed part with
    | some (.ok steps) => (readPartsByOffsets allowed rest).map (·.map (steps ++ ·))
    | other => other

theorem cutAt_append (front back : List Char) :
    cutAt (utf8 front).length (front ++ back) = .ok (front, back) := by
  rw [cutAt, cut?_append]

theorem readRound_of_unclosed {left : List Char} (unclosed : ']' ∉ left) :
    readRound left = .error .malformed := by
  rw [readRound, offset?_of_not_mem unclosed]

/-- All three cuts of a round are between characters. -/
theorem readRound_closed {digits : List Char} (unclosed : ']' ∉ digits) (rest : List Char) :
    readRound ('[' :: digits ++ ']' :: rest) =
      (orMalformed (Decimal.readUnsigned? 10 Decimal.unsignedLimit digits)).bind fun position =>
        if rest = [] ∨ rest.head? = some '[' then .ok (position, rest) else .error .malformed := by
  have absent : ']' ∉ '[' :: digits := by
    intro member
    rcases List.mem_cons.mp member with same | inside
    · exact absurd same (by decide)
    · exact unclosed inside
  have close : offset? ']' ('[' :: digits ++ ']' :: rest) = some (utf8 ('[' :: digits)).length :=
    offset?_append absent rest
  have inside : slice 1 (utf8 ('[' :: digits)).length ('[' :: digits ++ ']' :: rest) =
      .ok digits := by
    have first : cutAt 1 ('[' :: digits) = .ok (['['], digits) := cutAt_append ['['] digits
    rw [slice, cutAt_append]
    show (cutAt 1 ('[' :: digits)).map Prod.snd = _
    rw [first]
    rfl
  have behind : cutAt ((utf8 ('[' :: digits)).length + 1) ('[' :: digits ++ ']' :: rest) =
      .ok ('[' :: digits ++ [']'], rest) := by
    have size : (utf8 ('[' :: digits ++ [']'])).length = (utf8 ('[' :: digits)).length + 1 :=
      length_utf8_append _ _
    have whole := cutAt_append ('[' :: digits ++ [']']) rest
    rwa [size, List.append_assoc, List.singleton_append] at whole
  rw [readRound, close]
  dsimp only
  rw [inside, behind]
  rfl

theorem readIndices?_of_unclosed {cs : List Char} (unclosed : ']' ∉ cs) (held : List Char) :
    readIndices? (some held) cs = none := by
  induction cs generalizing held with
  | nil => rfl
  | cons c rest ih =>
    have other : c ≠ ']' := fun same => unclosed (same ▸ List.mem_cons_self)
    have later : ']' ∉ rest := fun member => unclosed (List.mem_cons_of_mem c member)
    unfold readIndices?
    simp only [other, ↓reduceIte]
    exact ih later (c :: held)

theorem readIndices?_of_not_begins {cs : List Char} (other : ¬ (cs = [] ∨ cs.head? = some '[')) :
    readIndices? none cs = none := by
  cases cs with
  | nil => exact absurd (Or.inl rfl) other
  | cons c rest =>
    have differs : c ≠ '[' := fun same => other (Or.inr (congrArg some same))
    unfold readIndices?
    simp only [differs, ↓reduceIte]

/-- The loop ends after at most one round more than there are closing brackets, and reads what
`readIndices?` reads. Every round that goes on leaves one closing bracket less. -/
theorem readRounds_eq {allowed : Nat} {left : List Char}
    (begins : left = [] ∨ left.head? = some '[') (enough : left.count ']' < allowed) :
    readRounds allowed left = some (orMalformed (readIndices? none left)) := by
  induction allowed generalizing left with
  | zero => exact absurd enough (Nat.not_lt_zero _)
  | succ allowed ih =>
    rcases begins with rfl | opened
    · rfl
    obtain ⟨inner, rfl⟩ := List.head?_eq_some_iff.mp opened
    have entered : readIndices? none ('[' :: inner) = readIndices? (some []) inner := rfl
    rw [entered, readRounds, if_neg (List.cons_ne_nil _ _)]
    by_cases closed : ']' ∈ inner
    · obtain ⟨digits, rest, rfl, unclosed⟩ := List.eq_append_cons_of_mem closed
      have fewer : rest.count ']' < allowed := by
        simp only [List.count_cons, List.count_append, beq_self_eq_true, ↓reduceIte] at enough
        omega
      have first := readRound_closed unclosed rest
      rw [List.cons_append] at first
      rw [first, readIndices?_digits [] digits rest unclosed, List.reverse_nil, List.nil_append]
      cases Decimal.readUnsigned? 10 Decimal.unsignedLimit digits with
      | none => rfl
      | some position =>
        by_cases goesOn : rest = [] ∨ rest.head? = some '['
        · simp only [orMalformed, Except.bind, goesOn, ↓reduceIte, ih goesOn fewer, Option.map_some]
          cases readIndices? none rest <;> rfl
        · simp only [orMalformed, Except.bind, goesOn, ↓reduceIte,
            readIndices?_of_not_begins goesOn]
    · have unclosed : ']' ∉ '[' :: inner := by
        intro member
        rcases List.mem_cons.mp member with same | inside
        · exact absurd same (by decide)
        · exact closed inside
      rw [readRound_of_unclosed unclosed, readIndices?_of_unclosed closed]
      rfl

theorem splitPart_eq (part : List Char) :
    splitPart part = .ok (part.takeWhile (· ≠ '['), part.dropWhile (· ≠ '[')) := by
  unfold splitPart
  by_cases opened : '[' ∈ part
  · have cut := cutAt_append (part.takeWhile (· ≠ '[')) (part.dropWhile (· ≠ '['))
    rw [List.takeWhile_append_dropWhile] at cut
    rw [offset?, if_pos opened]
    exact cut
  · have others : ∀ c ∈ part, decide (c ≠ '[') = true := by
      intro c member
      exact decide_eq_true fun same => opened (same ▸ member)
    rw [offset?_of_not_mem opened, List.takeWhile_eq_self_iff.mpr others,
      List.dropWhile_eq_nil_iff.mpr others]

theorem dropWhile_begins (part : List Char) :
    part.dropWhile (· ≠ '[') = [] ∨ (part.dropWhile (· ≠ '[')).head? = some '[' := by
  have head := List.head?_dropWhile_not (fun c => decide (c ≠ '[')) part
  cases begins : part.dropWhile (· ≠ '[') with
  | nil => exact Or.inl rfl
  | cons c rest =>
    rw [begins, List.head?_cons] at head
    exact Or.inr (congrArg some (Decidable.not_not.mp (of_decide_eq_false head)))

/-- A part is read by offsets in at most one round more than it has closing brackets, without a cut
that is out of bounds, and like `readPart?` reads it. -/
theorem readPartByOffsets_eq {allowed : Nat} {part : List Char}
    (enough : part.count ']' < allowed) :
    readPartByOffsets allowed part = some (orMalformed (readPart? part)) := by
  have behind : (part.dropWhile (· ≠ '[')).count ']' < allowed :=
    Nat.lt_of_le_of_lt ((List.dropWhile_sublist _).count_le _) enough
  have read := readRounds_eq (dropWhile_begins part) behind
  unfold readPartByOffsets readPart?
  rw [splitPart_eq]
  dsimp only
  rw [read]
  by_cases unnamed : part.takeWhile (· ≠ '[') = []
  · simp only [unnamed, ↓reduceIte, List.isEmpty_nil]
    cases readIndices? none (part.dropWhile (· ≠ '[')) <;> rfl
  · simp only [unnamed, ↓reduceIte, List.isEmpty_iff]
    cases readIndices? none (part.dropWhile (· ≠ '[')) <;> rfl

/-- No cut is ever out of bounds or inside a character, and what is read is what is read from left
to right. -/
theorem readPartsByOffsets_eq {allowed : Nat} {parts : List (List Char)}
    (enough : ∀ part ∈ parts, part.count ']' < allowed) :
    readPartsByOffsets allowed parts = some (orMalformed (readParts? parts)) := by
  induction parts with
  | nil => rfl
  | cons part rest ih =>
    obtain ⟨first, others⟩ := List.forall_mem_cons.mp enough
    rw [readPartsByOffsets, readPartByOffsets_eq first, ih others, readParts?]
    cases readPart? part with
    | none => rfl
    | some steps => cases readParts? rest <;> rfl

end BootSnapshot.Path
