import BootSnapshot.PropertyList.Value

set_option autoImplicit false

namespace BootSnapshot.PropertyList.Value

theorem toNode_ofScalar (content : Scalar) :
    (ofNode (.scalar content)).toNode = .ok (.scalar content) := by
  cases content with
  | integer value =>
    have small := Int64.toInt_lt value
    have fits : (WideInteger.ofInt64 value).value < 0x8000000000000000 := small
    rw [ofNode, toNode, if_pos fits]
    exact congrArg (fun same => Except.ok (Node.scalar (.integer same))) (Int64.ofInt_toInt value)
  | boolean value => rfl
  | real value => rfl
  | string text => rfl
  | data bytes => rfl

mutual

/-- Every tree comes back from its value, whatever the order or repetition of its keys. -/
theorem toNode_ofNode : ∀ node : Node, (ofNode node).toNode = .ok node
  | .dictionary ⟨entries⟩ => by rw [ofNode, toNode, toEntries_ofEntries entries]
  | .sequence items => by rw [ofNode, toNode, toItems_ofItems items]
  | .scalar content => toNode_ofScalar content

theorem toEntries_ofEntries : ∀ entries : List (String × Node),
    toEntries (ofEntries entries) = .ok entries
  | [] => rfl
  | (key, child) :: rest => by
    simp only [ofEntries, toEntries, toNode_ofNode child, toEntries_ofEntries rest]

theorem toItems_ofItems : ∀ items : List Node, toItems (ofItems items) = .ok items
  | [] => rfl
  | item :: rest => by simp only [ofItems, toItems, toNode_ofNode item, toItems_ofItems rest]

end

end BootSnapshot.PropertyList.Value
