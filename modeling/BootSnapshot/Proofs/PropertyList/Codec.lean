import BootSnapshot.PropertyList.Codec
import BootSnapshot.Proofs.Bytes.Utf8
import BootSnapshot.Proofs.PropertyList.Xml

set_option autoImplicit false

namespace BootSnapshot.PropertyList

theorem readValue?_write_xml {node : Node} (distinct : node.HasDistinctKeys) :
    readValue? (write .xml node) = some (Value.ofNode (node.mapScalars Xml.unifyNaN)) := by
  obtain ⟨rest, begins⟩ := Xml.write_begins node
  have bytes : write .xml node =
      [0x3C, 0x3F, 0x78, 0x6D, 0x6C, 0x20, 0x76, 0x65] ++ Bytes.utf8 rest := by
    rw [write, begins]
    rfl
  have long : ¬ (write .xml node).length < Binary.signature.length := by
    rw [bytes, List.length_append]
    exact Nat.not_lt.mpr (Nat.le_add_right _ _)
  have form : Format.ofBytes (write .xml node) = .xml := by
    rw [bytes]
    rfl
  have read : Xml.read? (write .xml node) =
      some (Value.ofNode (node.mapScalars Xml.unifyNaN)) := by
    rw [write, Xml.read?, Bytes.chars?_utf8, Option.bind_some, Xml.readChars?_write distinct]
  rw [readValue?, if_neg long, form]
  exact read

theorem unifyNaN_eq_self {content : Scalar}
    (number : ∀ value, content = .real value → value.isNaN = false) :
    Xml.unifyNaN content = content := by
  cases content with
  | real value =>
    have present := number value rfl
    simp only [Xml.unifyNaN, Decimal.Binary64.unifyNaN, present, Bool.false_eq_true, ↓reduceIte]
  | _ => rfl

/-- Reading what was written in markup for a tree with distinct keys gives the tree back. A missing
number has one text, so that it comes back as the missing number which that text names. -/
theorem read_write_xml (source : String) {node : Node} (distinct : node.HasDistinctKeys) :
    read source (write .xml node) = .ok (node.mapScalars Xml.unifyNaN) ∧
      ((∀ value, .real value ∈ node.scalars → value.isNaN = false) →
        read source (write .xml node) = .ok node) := by
  have back : read source (write .xml node) = .ok (node.mapScalars Xml.unifyNaN) := by
    rw [read, readValue?_write_xml distinct]
    exact Value.toNode_ofNode _
  refine ⟨back, fun numbers => ?_⟩
  rw [back, Node.mapScalars_eq_self node fun content held => ?_]
  refine unifyNaN_eq_self fun value same => numbers value ?_
  rw [← same]
  exact held

/-- A tree with empty collections and keys, with marks and blanks in texts and keys, and with the
least whole number. -/
def awkwardTree : Node := .dictionary ⟨[
  ("", .sequence [.scalar (.integer (-0x8000000000000000)), .scalar (.data [0, 255, 62, 10]),
    .sequence [], .emptyDictionary]),
  (" <&>\"\x27\r\n", .dictionary ⟨[("&amp;", .scalar (.string "]]>\t")),
    ("x", .scalar (.real ⟨0x3FB999999999999A⟩))]⟩),
  ("last", .scalar (.string ""))]⟩

theorem awkwardTree_comes_back :
    awkwardTree.HasDistinctKeys ∧
      read "tree" (write .xml awkwardTree) = .ok awkwardTree := by
  have first : (Node.sequence [.scalar (.integer (-0x8000000000000000)),
      .scalar (.data [0, 255, 62, 10]), .sequence [], .emptyDictionary]).HasDistinctKeys := by
    refine .sequence ?_
    simp only [List.forall_mem_cons, List.not_mem_nil, false_implies, implies_true, and_true]
    exact ⟨.scalar _, .scalar _, .sequence nofun, .dictionary (by decide) nofun⟩
  have second : (Node.dictionary ⟨[("&amp;", .scalar (.string "]]>\t")),
      ("x", .scalar (.real ⟨0x3FB999999999999A⟩))]⟩).HasDistinctKeys := by
    refine .dictionary (by decide) ?_
    simp only [List.forall_mem_cons, List.not_mem_nil, false_implies, implies_true, and_true]
    exact ⟨.scalar _, .scalar _⟩
  have distinct : awkwardTree.HasDistinctKeys := by
    refine .dictionary (by decide) ?_
    simp only [List.forall_mem_cons, List.not_mem_nil, false_implies, implies_true, and_true]
    exact ⟨first, second, .scalar _⟩
  have numbers : ∀ value, .real value ∈ awkwardTree.scalars → value.isNaN = false := by
    intro value held
    have only : value = ⟨0x3FB999999999999A⟩ := by
      simpa [awkwardTree, Node.scalars, Node.scalarsOfEntries, Node.scalarsOfItems,
        Node.emptyDictionary, Dictionary.empty] using held
    rw [only]
    decide
  exact ⟨distinct, (read_write_xml "tree" distinct).2 numbers⟩

end BootSnapshot.PropertyList
