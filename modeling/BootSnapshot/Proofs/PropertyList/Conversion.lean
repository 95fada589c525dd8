import BootSnapshot.Proofs.PropertyList.Value
import BootSnapshot.Proofs.Tree.Keys

set_option autoImplicit false

namespace BootSnapshot

namespace Dictionary

variable {α : Type} {d : Dictionary α} {key : String} {later : List String}

theorem insert_fresh (distinct : (d.keys ++ key :: later).Nodup) (value : α) :
    d.insert key value = ⟨d.entries ++ [(key, value)]⟩ := by
  have fresh : key ∉ d.keys := by
    intro member
    exact (List.nodup_append.mp distinct).2.2 key member key List.mem_cons_self rfl
  exact congrArg Dictionary.mk (put_fresh fresh value)

theorem nodup_insert_fresh (distinct : (d.keys ++ key :: later).Nodup) (value : α) :
    ((d.insert key value).keys ++ later).Nodup := by
  rw [insert_fresh distinct value]
  simpa only [keys, List.map_append, List.map_cons, List.map_nil, List.append_assoc,
    List.singleton_append] using distinct

end Dictionary

namespace Node

theorem hasDistinctKeys_dictionary {children : Dictionary Node} :
    (dictionary children).HasDistinctKeys ↔
      children.Distinct ∧ ∀ entry ∈ children.entries, entry.2.HasDistinctKeys :=
  ⟨fun | .dictionary distinct below => ⟨distinct, below⟩, fun ⟨distinct, below⟩ =>
    .dictionary distinct below⟩

theorem hasDistinctKeys_sequence {items : List Node} :
    (sequence items).HasDistinctKeys ↔ ∀ item ∈ items, item.HasDistinctKeys :=
  ⟨fun | .sequence below => below, .sequence⟩

end Node

namespace PropertyList.Value

/-- No dictionary in the value has a key twice. -/
inductive HasDistinctKeys : Value → Prop
  | dictionary {children : Dictionary Value} (distinct : children.Distinct)
      (below : ∀ entry ∈ children.entries, HasDistinctKeys entry.2) :
      HasDistinctKeys (.dictionary children)
  | array {items : List Value} (below : ∀ item ∈ items, HasDistinctKeys item) :
      HasDistinctKeys (.array items)
  | boolean (value : Bool) : HasDistinctKeys (.boolean value)
  | integer (number : WideInteger) : HasDistinctKeys (.integer number)
  | real (value : Decimal.Binary64) : HasDistinctKeys (.real value)
  | string (text : String) : HasDistinctKeys (.string text)
  | data (bytes : List UInt8) : HasDistinctKeys (.data bytes)
  | date : HasDistinctKeys .date
  | uid (number : Nat) : HasDistinctKeys (.uid number)

theorem hasDistinctKeys_dictionary {children : Dictionary Value} :
    (dictionary children).HasDistinctKeys ↔
      children.Distinct ∧ ∀ entry ∈ children.entries, entry.2.HasDistinctKeys :=
  ⟨fun | .dictionary distinct below => ⟨distinct, below⟩, fun ⟨distinct, below⟩ =>
    .dictionary distinct below⟩

theorem hasDistinctKeys_array {items : List Value} :
    (array items).HasDistinctKeys ↔ ∀ item ∈ items, item.HasDistinctKeys :=
  ⟨fun | .array below => below, .array⟩

mutual

/-- The tree of a value, with the children of a dictionary put in one after another until one of
them has no tree. -/
def build : Value → Except ParseError Node
  | .dictionary ⟨entries⟩ =>
    match buildEntries .empty entries with
    | .ok children => .ok (.dictionary children)
    | .error error => .error error
  | .array items =>
    match buildItems items with
    | .ok nodes => .ok (.sequence nodes)
    | .error error => .error error
  | leaf => leaf.toNode

def buildEntries (children : Dictionary Node) :
    List (String × Value) → Except ParseError (Dictionary Node)
  | [] => .ok children
  | (key, child) :: rest =>
    match build child with
    | .error error => .error error
    | .ok node => buildEntries (children.insert key node) rest

def buildItems : List Value → Except ParseError (List Node)
  | [] => .ok []
  | item :: rest =>
    match build item with
    | .error error => .error error
    | .ok node =>
      match buildItems rest with
      | .error error => .error error
      | .ok others => .ok (node :: others)

end

mutual

/-- The value of a tree, with the children of a dictionary put in one after another. -/
def gather : Node → Value
  | .dictionary ⟨entries⟩ => .dictionary (gatherEntries .empty entries)
  | .sequence items => .array (gatherItems items)
  | .scalar content => ofNode (.scalar content)

def gatherEntries (children : Dictionary Value) : List (String × Node) → Dictionary Value
  | [] => children
  | (key, child) :: rest => gatherEntries (children.insert key (gather child)) rest

def gatherItems : List Node → List Value
  | [] => []
  | item :: rest => gather item :: gatherItems rest

end

mutual

theorem build_eq_toNode : ∀ {value : Value}, value.HasDistinctKeys → value.build = value.toNode
  | .dictionary ⟨entries⟩, .dictionary distinct below => by
    rw [build, toNode, buildEntries_eq entries below .empty distinct]
    cases toEntries entries <;> rfl
  | .array items, .array below => by
    cases converted : toItems items <;>
      simp only [build, toNode, buildItems_eq items below, converted]
  | .boolean _, _ => rfl
  | .integer _, _ => rfl
  | .real _, _ => rfl
  | .string _, _ => rfl
  | .data _, _ => rfl
  | .date, _ => rfl
  | .uid _, _ => rfl

theorem buildEntries_eq : ∀ entries : List (String × Value),
    (∀ entry ∈ entries, entry.2.HasDistinctKeys) →
    ∀ children : Dictionary Node, (children.keys ++ entries.map Prod.fst).Nodup →
    buildEntries children entries =
      (toEntries entries).map fun others => ⟨children.entries ++ others⟩
  | [], _, children, _ => by
    simp only [buildEntries, toEntries, Except.map, List.append_nil]
  | (key, child) :: rest, below, children, distinct => by
    obtain ⟨here, others⟩ := List.forall_mem_cons.mp below
    rw [buildEntries, toEntries, build_eq_toNode here]
    cases child.toNode with
    | error error => rfl
    | ok node =>
      dsimp only
      rw [buildEntries_eq rest others _ (Dictionary.nodup_insert_fresh distinct node),
        Dictionary.insert_fresh distinct node]
      cases toEntries rest with
      | error error => rfl
      | ok nodes => simp only [Except.map, List.append_assoc, List.singleton_append]

theorem buildItems_eq : ∀ items : List Value, (∀ item ∈ items, item.HasDistinctKeys) →
    buildItems items = toItems items
  | [], _ => rfl
  | item :: rest, below => by
    obtain ⟨here, others⟩ := List.forall_mem_cons.mp below
    cases first : item.toNode with
    | error error => simp only [buildItems, toItems, build_eq_toNode here, first]
    | ok node =>
      cases later : toItems rest <;>
        simp only [buildItems, toItems, build_eq_toNode here, buildItems_eq rest others, first,
          later]

end

mutual

theorem gather_eq_ofNode : ∀ {node : Node}, node.HasDistinctKeys → gather node = ofNode node
  | .dictionary ⟨entries⟩, .dictionary distinct below => by
    rw [gather, ofNode, gatherEntries_eq entries below .empty distinct]
    rfl
  | .sequence items, .sequence below => by rw [gather, ofNode, gatherItems_eq items below]
  | .scalar _, _ => rfl

theorem gatherEntries_eq : ∀ entries : List (String × Node),
    (∀ entry ∈ entries, entry.2.HasDistinctKeys) →
    ∀ children : Dictionary Value, (children.keys ++ entries.map Prod.fst).Nodup →
    gatherEntries children entries = ⟨children.entries ++ ofEntries entries⟩
  | [], _, children, _ => by simp only [gatherEntries, ofEntries, List.append_nil]
  | (key, child) :: rest, below, children, distinct => by
    obtain ⟨here, others⟩ := List.forall_mem_cons.mp below
    rw [gatherEntries, ofEntries, gather_eq_ofNode here,
      gatherEntries_eq rest others _ (Dictionary.nodup_insert_fresh distinct _),
      Dictionary.insert_fresh distinct]
    simp only [List.append_assoc, List.singleton_append]

theorem gatherItems_eq : ∀ items : List Node, (∀ item ∈ items, item.HasDistinctKeys) →
    gatherItems items = ofItems items
  | [], _ => rfl
  | item :: rest, below => by
    obtain ⟨here, others⟩ := List.forall_mem_cons.mp below
    rw [gatherItems, ofItems, gather_eq_ofNode here, gatherItems_eq rest others]

end

theorem map_fst_ofEntries (entries : List (String × Node)) :
    (ofEntries entries).map Prod.fst = entries.map Prod.fst := by
  induction entries with
  | nil => rfl
  | cons entry rest ih => exact congrArg (entry.1 :: ·) ih

mutual

theorem hasDistinctKeys_ofNode : ∀ node : Node,
    (ofNode node).HasDistinctKeys ↔ node.HasDistinctKeys
  | .dictionary ⟨entries⟩ => by
    rw [ofNode, hasDistinctKeys_dictionary, Node.hasDistinctKeys_dictionary,
      Dictionary.Distinct, Dictionary.keys, map_fst_ofEntries, below_ofEntries entries]
    rfl
  | .sequence items => by
    rw [ofNode, hasDistinctKeys_array, Node.hasDistinctKeys_sequence, below_ofItems items]
  | .scalar content => by
    refine iff_of_true ?_ (.scalar content)
    cases content <;> constructor

theorem below_ofEntries : ∀ entries : List (String × Node),
    (∀ entry ∈ ofEntries entries, entry.2.HasDistinctKeys) ↔
      ∀ entry ∈ entries, entry.2.HasDistinctKeys
  | [] => iff_of_true (List.forall_mem_nil _) (List.forall_mem_nil _)
  | (key, child) :: rest => by
    rw [ofEntries, List.forall_mem_cons, List.forall_mem_cons, hasDistinctKeys_ofNode child,
      below_ofEntries rest]

theorem below_ofItems : ∀ items : List Node,
    (∀ item ∈ ofItems items, item.HasDistinctKeys) ↔ ∀ item ∈ items, item.HasDistinctKeys
  | [] => iff_of_true (List.forall_mem_nil _) (List.forall_mem_nil _)
  | item :: rest => by
    rw [ofItems, List.forall_mem_cons, List.forall_mem_cons, hasDistinctKeys_ofNode item,
      below_ofItems rest]

end

theorem ofInt64_ofInt {number : WideInteger} (fits : number.value < 0x8000000000000000) :
    WideInteger.ofInt64 (Int64.ofInt number.value) = number := by
  obtain ⟨value, lower, upper⟩ := number
  have same : (Int64.ofInt value).toInt = value := Int64.toInt_ofInt_of_le lower fits
  simp only [WideInteger.ofInt64, same]

mutual

theorem ofNode_of_toNode : ∀ {value : Value} {node : Node}, value.toNode = .ok node →
    ofNode node = value
  | .dictionary ⟨entries⟩, node, converted => by
    unfold toNode at converted
    split at converted
    next children below =>
      cases converted
      rw [ofNode, ofEntries_of_toEntries below]
    next => cases converted
  | .array items, node, converted => by
    unfold toNode at converted
    split at converted
    next nodes below =>
      cases converted
      rw [ofNode, ofItems_of_toItems below]
    next => cases converted
  | .integer number, node, converted => by
    unfold toNode at converted
    split at converted
    next fits =>
      cases converted
      exact congrArg Value.integer (ofInt64_ofInt fits)
    next => cases converted
  | .boolean _, _, rfl => rfl
  | .real _, _, rfl => rfl
  | .string _, _, rfl => rfl
  | .data _, _, rfl => rfl

theorem ofEntries_of_toEntries : ∀ {entries : List (String × Value)}
    {children : List (String × Node)}, toEntries entries = .ok children →
    ofEntries children = entries
  | [], _, rfl => rfl
  | (key, child) :: rest, children, converted => by
    unfold toEntries at converted
    split at converted
    next => cases converted
    next node here =>
      split at converted
      next => cases converted
      next others below =>
        cases converted
        rw [ofEntries, ofNode_of_toNode here, ofEntries_of_toEntries below]

theorem ofItems_of_toItems : ∀ {items : List Value} {nodes : List Node},
    toItems items = .ok nodes → ofItems nodes = items
  | [], _, rfl => rfl
  | item :: rest, nodes, converted => by
    unfold toItems at converted
    split at converted
    next => cases converted
    next node here =>
      split at converted
      next => cases converted
      next others below =>
        cases converted
        rw [ofItems, ofNode_of_toNode here, ofItems_of_toItems below]

end

/-- A value inside another one, at any depth; also the whole itself. -/
inductive Within (part : Value) : Value → Prop
  | self : Within part part
  | entry {children : Dictionary Value} {entry : String × Value}
      (held : entry ∈ children.entries) (inside : Within part entry.2) :
      Within part (.dictionary children)
  | item {items : List Value} {item : Value} (held : item ∈ items) (inside : Within part item) :
      Within part (.array items)

/-- The kinds of values that trees lack, each with its error. -/
inductive Fault : Value → ParseError → Prop
  | date : Fault .date (.unsupportedValue .date)
  | uid (number : Nat) : Fault (.uid number) (.unsupportedValue .uid)
  | integer {number : WideInteger} {value : Nat} (same : number.value = value)
      (large : 0x8000000000000000 ≤ value) : Fault (.integer number) (.integerOutOfRange value)

mutual

/-- All values inside, in reading order: each before what is inside it. -/
def walk : Value → List Value
  | .dictionary ⟨entries⟩ => .dictionary ⟨entries⟩ :: walkEntries entries
  | .array items => .array items :: walkItems items
  | leaf => [leaf]

def walkEntries : List (String × Value) → List Value
  | [] => []
  | (_, child) :: rest => child.walk ++ walkEntries rest

def walkItems : List Value → List Value
  | [] => []
  | item :: rest => item.walk ++ walkItems rest

end

theorem self_mem_walk (value : Value) : value ∈ value.walk := by
  cases value <;> exact List.mem_cons_self

mutual

theorem within_of_mem_walk : ∀ {value part : Value}, part ∈ value.walk → part.Within value
  | .dictionary ⟨entries⟩, part, member => by
    rcases List.mem_cons.mp member with rfl | below
    · exact .self
    · obtain ⟨entry, held, inside⟩ := within_of_mem_walkEntries below
      exact .entry held inside
  | .array items, part, member => by
    rcases List.mem_cons.mp member with rfl | below
    · exact .self
    · obtain ⟨item, held, inside⟩ := within_of_mem_walkItems below
      exact .item held inside
  | .boolean _, _, member => List.mem_singleton.mp member ▸ .self
  | .integer _, _, member => List.mem_singleton.mp member ▸ .self
  | .real _, _, member => List.mem_singleton.mp member ▸ .self
  | .string _, _, member => List.mem_singleton.mp member ▸ .self
  | .data _, _, member => List.mem_singleton.mp member ▸ .self
  | .date, _, member => List.mem_singleton.mp member ▸ .self
  | .uid _, _, member => List.mem_singleton.mp member ▸ .self

theorem within_of_mem_walkEntries : ∀ {entries : List (String × Value)} {part : Value},
    part ∈ walkEntries entries → ∃ entry ∈ entries, part.Within entry.2
  | (key, child) :: rest, part, member => by
    rcases List.mem_append.mp member with here | later
    · exact ⟨(key, child), List.mem_cons_self, within_of_mem_walk here⟩
    · obtain ⟨entry, held, inside⟩ := within_of_mem_walkEntries later
      exact ⟨entry, List.mem_cons_of_mem _ held, inside⟩

theorem within_of_mem_walkItems : ∀ {items : List Value} {part : Value},
    part ∈ walkItems items → ∃ item ∈ items, part.Within item
  | item :: rest, part, member => by
    rcases List.mem_append.mp member with here | later
    · exact ⟨item, List.mem_cons_self, within_of_mem_walk here⟩
    · obtain ⟨found, held, inside⟩ := within_of_mem_walkItems later
      exact ⟨found, List.mem_cons_of_mem _ held, inside⟩

end

theorem walkEntries_eq_flatMap (entries : List (String × Value)) :
    walkEntries entries = entries.flatMap fun entry => entry.2.walk := by
  induction entries with
  | nil => rfl
  | cons entry rest ih => rw [walkEntries, ih, List.flatMap_cons]

theorem walkItems_eq_flatMap (items : List Value) : walkItems items = items.flatMap walk := by
  induction items with
  | nil => rfl
  | cons item rest ih => rw [walkItems, ih, List.flatMap_cons]

theorem mem_walk_iff {value part : Value} : part ∈ value.walk ↔ part.Within value := by
  refine ⟨within_of_mem_walk, fun inside => ?_⟩
  induction inside with
  | self => exact part.self_mem_walk
  | @entry children entry held _ ih =>
    obtain ⟨entries⟩ := children
    rw [walk, walkEntries_eq_flatMap]
    exact List.mem_cons_of_mem _ (List.mem_flatMap.mpr ⟨entry, held, ih⟩)
  | @item items item held _ ih =>
    rw [walk, walkItems_eq_flatMap]
    exact List.mem_cons_of_mem _ (List.mem_flatMap.mpr ⟨item, held, ih⟩)

/-- The error of a value that has no tree whatever is inside it. -/
def fault? : Value → Option ParseError
  | .date => some (.unsupportedValue .date)
  | .uid _ => some (.unsupportedValue .uid)
  | .integer number =>
    if number.value < 0x8000000000000000 then none
    else some (.integerOutOfRange number.value.toNat)
  | _ => none

theorem fault?_eq_some_iff {value : Value} {error : ParseError} :
    value.fault? = some error ↔ Fault value error := by
  constructor
  · intro found
    cases value with
    | date =>
      cases found
      exact .date
    | uid number =>
      cases found
      exact .uid number
    | integer number =>
      rw [fault?] at found
      split at found
      next => cases found
      next large =>
        cases found
        exact .integer (by omega) (by omega)
    | _ => cases found
  · intro fault
    cases fault with
    | date => rfl
    | uid number => rfl
    | @integer number value same large =>
      have tooLarge : ¬ number.value < 0x8000000000000000 := by omega
      rw [fault?, if_neg tooLarge, same]
      rfl

theorem fault?_eq_none_iff {value : Value} :
    value.fault? = none ↔ ∀ error, ¬ Fault value error := by
  simp only [← fault?_eq_some_iff, Option.eq_none_iff_forall_ne_some, ne_eq]

def failure? {α : Type} : Except ParseError α → Option ParseError
  | .ok _ => none
  | .error error => some error

theorem failure?_eq_some_iff {α : Type} {outcome : Except ParseError α} {error : ParseError} :
    failure? outcome = some error ↔ outcome = .error error := by
  cases outcome <;> simp only [failure?, reduceCtorEq, Option.some_inj, Except.error.injEq]

theorem failure?_eq_none_iff {α : Type} {outcome : Except ParseError α} :
    failure? outcome = none ↔ ∃ result, outcome = .ok result := by
  cases outcome <;> simp only [failure?, reduceCtorEq, Except.ok.injEq, exists_false, exists_eq']

-- A conversion stops at the first part that fails, so its error is the first one of the walk.
mutual

theorem failure?_toNode : ∀ value : Value, failure? value.toNode = value.walk.findSome? fault?
  | .dictionary ⟨entries⟩ => by
    rw [walk, List.findSome?_cons_of_isNone rfl, ← failure?_toEntries entries, toNode]
    cases toEntries entries <;> rfl
  | .array items => by
    rw [walk, List.findSome?_cons_of_isNone rfl, ← failure?_toItems items, toNode]
    cases toItems items <;> rfl
  | .integer number => by
    by_cases fits : number.value < 0x8000000000000000
    · simp only [toNode, fits, ↓reduceIte, walk, List.findSome?_cons, fault?, failure?,
        List.findSome?_nil]
    · simp only [toNode, fits, ↓reduceIte, walk, List.findSome?_cons, fault?, failure?]
  | .boolean _ => rfl
  | .real _ => rfl
  | .string _ => rfl
  | .data _ => rfl
  | .date => rfl
  | .uid _ => rfl

theorem failure?_toEntries : ∀ entries : List (String × Value),
    failure? (toEntries entries) = (walkEntries entries).findSome? fault?
  | [] => rfl
  | (key, child) :: rest => by
    rw [walkEntries, List.findSome?_append, ← failure?_toNode child, ← failure?_toEntries rest,
      toEntries]
    cases child.toNode with
    | error error => rfl
    | ok node => cases toEntries rest <;> rfl

theorem failure?_toItems : ∀ items : List Value,
    failure? (toItems items) = (walkItems items).findSome? fault?
  | [] => rfl
  | item :: rest => by
    rw [walkItems, List.findSome?_append, ← failure?_toNode item, ← failure?_toItems rest, toItems]
    cases item.toNode with
    | error error => rfl
    | ok node => cases toItems rest <;> rfl

end

theorem exists_toNode_iff {value : Value} :
    (∃ node, value.toNode = .ok node) ↔ ∀ part error, part.Within value → ¬ Fault part error := by
  rw [← failure?_eq_none_iff, failure?_toNode, List.findSome?_eq_none_iff]
  simp only [fault?_eq_none_iff, mem_walk_iff]
  exact ⟨fun clean part error inside => clean part inside error,
    fun clean part inside error => clean part error inside⟩

theorem toNode_eq_error_iff {value : Value} {error : ParseError} :
    value.toNode = .error error ↔ ∃ before part after, value.walk = before ++ part :: after ∧
      (∀ earlier ∈ before, ∀ other, ¬ Fault earlier other) ∧ Fault part error := by
  rw [← failure?_eq_some_iff, failure?_toNode, List.findSome?_eq_some_iff]
  simp only [fault?_eq_none_iff, fault?_eq_some_iff, and_comm]

theorem converts_exactly {value : Value} (distinct : value.HasDistinctKeys) :
    value.build = value.toNode ∧
      ((∃ node, value.toNode = .ok node) ↔
        ∀ part error, part.Within value → ¬ Fault part error) ∧
      (∀ node, value.toNode = .ok node →
        node.HasDistinctKeys ∧ gather node = ofNode node ∧ ofNode node = value) ∧
      (∀ error, value.toNode = .error error ↔
        ∃ before part after, value.walk = before ++ part :: after ∧
          (∀ earlier ∈ before, ∀ other, ¬ Fault earlier other) ∧ Fault part error) ∧
      ∀ node : Node, (ofNode node).toNode = .ok node ∧
        (node.HasDistinctKeys → gather node = ofNode node ∧ (ofNode node).build = .ok node) := by
  refine ⟨build_eq_toNode distinct, exists_toNode_iff, ?_, fun _ => toNode_eq_error_iff, ?_⟩
  · intro node converted
    have back := ofNode_of_toNode converted
    have distinctNode : node.HasDistinctKeys := by rwa [← hasDistinctKeys_ofNode, back]
    exact ⟨distinctNode, gather_eq_ofNode distinctNode, back⟩
  · intro node
    refine ⟨toNode_ofNode node, fun distinctNode => ⟨gather_eq_ofNode distinctNode, ?_⟩⟩
    rw [build_eq_toNode ((hasDistinctKeys_ofNode node).mpr distinctNode), toNode_ofNode]

/-- The largest whole number that fits and an empty dictionary, followed by one more value. -/
def recordValue (last : Value) : Value := .dictionary ⟨[
  ("Limits", .array [.integer ⟨0x7FFFFFFFFFFFFFFF, by omega, by omega⟩, .dictionary .empty]),
  ("Last", last)]⟩

theorem hasDistinctKeys_recordValue {last : Value} (distinct : last.HasDistinctKeys) :
    (recordValue last).HasDistinctKeys := by
  have limits : (Value.array [.integer ⟨0x7FFFFFFFFFFFFFFF, by omega, by omega⟩,
      .dictionary .empty]).HasDistinctKeys := by
    refine .array ?_
    simp only [List.forall_mem_cons, List.not_mem_nil, false_implies, implies_true, and_true]
    exact ⟨.integer _, .dictionary (by decide) (List.forall_mem_nil _)⟩
  refine .dictionary (show ["Limits", "Last"].Nodup by decide) ?_
  simp only [List.forall_mem_cons, List.not_mem_nil, false_implies, implies_true, and_true]
  exact ⟨limits, distinct⟩

theorem recordValue_converted :
    (recordValue (.array [.string "a", .uid 7, .date])).HasDistinctKeys ∧
      (recordValue (.array [.string "a", .uid 7, .date])).toNode =
        .error (.unsupportedValue .uid) ∧
      (recordValue (.integer ⟨0x8000000000000000, by omega, by omega⟩)).toNode =
        .error (.integerOutOfRange 0x8000000000000000) ∧
      ∃ node, (recordValue (.string "a")).toNode = .ok node ∧
        (recordValue (.string "a")).build = .ok node ∧
        gather node = recordValue (.string "a") := by
  have distinct : (recordValue (.array [.string "a", .uid 7, .date])).HasDistinctKeys := by
    refine hasDistinctKeys_recordValue (.array ?_)
    simp only [List.forall_mem_cons, List.not_mem_nil, false_implies, implies_true, and_true]
    exact ⟨.string _, .uid _, .date⟩
  have large : (recordValue (.integer ⟨0x8000000000000000, by omega, by omega⟩)).HasDistinctKeys :=
    hasDistinctKeys_recordValue (.integer _)
  refine ⟨distinct, ?_, ?_, ?_⟩
  · obtain ⟨-, -, -, refused, -⟩ := converts_exactly distinct
    refine (refused _).mpr ⟨(recordValue (.array [.string "a", .uid 7, .date])).walk.take 6,
      .uid 7, [.date], rfl, ?_, .uid 7⟩
    simp only [← fault?_eq_none_iff]
    decide
  · obtain ⟨-, -, -, refused, -⟩ := converts_exactly large
    refine (refused _).mpr
      ⟨(recordValue (.integer ⟨0x8000000000000000, by omega, by omega⟩)).walk.take 4,
        .integer ⟨0x8000000000000000, by omega, by omega⟩, [], rfl, ?_, .integer rfl (by decide)⟩
    simp only [← fault?_eq_none_iff]
    decide
  · obtain ⟨built, -, exact, -, -⟩ := converts_exactly (hasDistinctKeys_recordValue (.string "a"))
    obtain ⟨-, gathered, back⟩ := exact _ rfl
    exact ⟨_, rfl, built.trans rfl, gathered.trans back⟩

end PropertyList.Value
end BootSnapshot
