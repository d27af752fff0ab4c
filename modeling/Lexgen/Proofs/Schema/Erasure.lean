import Lexgen.Schema.Native

namespace Lexgen.Schema

namespace NativeType

/-- The storage type of the values of a native type. Whatever has members, and whatever is not known
here, is structured. -/
def erase : NativeType → StorageType
  | .text => .text
  | .timestamp => .timestamp
  | .null => .null
  | .integer => .integer
  | .boolean => .boolean
  | .bytes => .bytes
  | .map => .structured
  | .any => .structured
  | .list element => .array element.erase
  | .ref _ => .structured
  | .record _ => .structured

end NativeType

namespace StorageType

theorem within_eq_erase (nsid : String) (levels : Nat) (node : Json) :
    within levels node = (NativeType.within nsid levels node).erase := by
  induction levels generalizing node with
  | zero => rfl
  | succ levels ih =>
      simp only [within, NativeType.within]
      cases Kind.of? node with
      | none => rfl
      | some kind =>
          cases kind with
          | ref => cases node.getString? "ref" <;> rfl
          | string => cases isDatetime node <;> rfl
          | array =>
              cases node.get? "items" with
              | none => rfl
              | some items => exact congrArg StorageType.array (ih items)
          | _ => rfl

/-- The storage type of every node, however malformed or deep, is the erasure of its native type. -/
theorem ofNode_eq_erase (nsid : String) (node : Json) :
    ofNode node = (NativeType.ofNode nsid node).erase :=
  within_eq_erase nsid (maxDepth + 1) node

end StorageType

end Lexgen.Schema
