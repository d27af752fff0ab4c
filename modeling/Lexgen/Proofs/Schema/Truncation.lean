import Lexgen.Proofs.OrderedMembers
import Lexgen.Schema.Native

namespace Lexgen.Schema

section Size

variable {node child : Json} {key : String}

theorem sizeOf_lt_of_mem_members {members : List (String × Json)}
    (hmem : (key, child) ∈ members) : sizeOf child < sizeOf (Json.object members) := by
  have hlt := List.sizeOf_lt_of_mem hmem
  simp only [Prod.mk.sizeOf_spec, Json.object.sizeOf_spec] at hlt ⊢
  omega

theorem sizeOf_lt_of_get? (hget : node.get? key = some child) : sizeOf child < sizeOf node := by
  cases node with
  | object members => exact sizeOf_lt_of_mem_members (mem_of_findMember? hget)
  | _ => simp [Json.get?] at hget

theorem sizeOf_lt_of_mem_properties (hmem : (key, child) ∈ (properties? node).getD []) :
    sizeOf child < sizeOf node := by
  rw [properties?] at hmem
  cases hget : node.get? "properties" with
  | none => simp [hget] at hmem
  | some properties =>
      rw [hget, Option.bind_some] at hmem
      cases properties with
      | object members =>
          exact Nat.lt_trans (sizeOf_lt_of_mem_members hmem) (sizeOf_lt_of_get? hget)
      | _ => simp [Json.members?] at hmem

end Size

namespace NativeType

/-- The native type of a node in the document `nsid`, looked into as deep as it goes. -/
def unbounded (nsid : String) (node : Json) : NativeType :=
  match Kind.of? node with
  | some .ref =>
    match node.getString? "ref" with
    | some reference => .ref (Reference.parse nsid reference).moduleName
    | none => .any
  | some .string => if isDatetime node then .timestamp else .text
  | some .cidLink => .text
  | some .null => .null
  | some .integer => .integer
  | some .boolean => .boolean
  | some .bytes => .bytes
  | some .blob => .map
  | some .array =>
    match _hget : node.get? "items" with
    | some items => .list (unbounded nsid items)
    | none => .list .any
  | some .object =>
    .record (((properties? node).getD []).attach.map fun ⟨(name, property), _⟩ =>
      (name, unbounded nsid property))
  | _ => .any
termination_by sizeOf node
decreasing_by
  · exact sizeOf_lt_of_get? _hget
  · exact sizeOf_lt_of_mem_properties ‹_›

/-- A type with everything below `levels` levels of lists and records replaced by `any`. -/
def truncate : Nat → NativeType → NativeType
  | 0, _ => .any
  | levels + 1, .list element => .list (truncate levels element)
  | levels + 1, .record fields =>
    .record (fields.map fun (name, type) => (name, truncate levels type))
  | _ + 1, type => type

mutual

/-- How many lists and records lie inside each other in a type. -/
def nesting : NativeType → Nat
  | .list element => element.nesting + 1
  | .record fields => fieldNesting fields + 1
  | _ => 0

def fieldNesting : List (String × NativeType) → Nat
  | [] => 0
  | (_, type) :: rest => max type.nesting (fieldNesting rest)

end

section Resolution

variable {nsid : String} {node : Json}

theorem unbounded_of_array (hkind : Kind.of? node = some .array) :
    unbounded nsid node = .list (((node.get? "items").map (unbounded nsid)).getD .any) := by
  rw [unbounded, hkind]
  simp only
  split
  · rename_i items hget
    rw [hget, Option.map_some, Option.getD_some]
  · rename_i hget
    rw [hget, Option.map_none, Option.getD_none]

theorem unbounded_of_object (hkind : Kind.of? node = some .object) :
    unbounded nsid node = .record (((properties? node).getD []).map fun (name, property) =>
      (name, unbounded nsid property)) := by
  rw [unbounded, hkind]
  have hattach := @List.attach_map_val _ _ ((properties? node).getD [])
    fun property => (property.1, unbounded nsid property.2)
  exact congrArg record hattach

theorem within_eq_truncate (nsid : String) (levels : Nat) (node : Json) :
    within nsid levels node = truncate levels (unbounded nsid node) := by
  induction levels generalizing node with
  | zero => rfl
  | succ levels ih =>
      rw [within]
      cases hkind : Kind.of? node with
      | none => rw [unbounded, hkind]; rfl
      | some kind =>
          cases kind with
          | array =>
              rw [unbounded_of_array hkind, truncate]
              cases node.get? "items" with
              | none =>
                  -- The missing element is `any` at every level, the last one included.
                  cases levels <;> rfl
              | some items => exact congrArg list (ih items)
          | object =>
              rw [unbounded_of_object hkind, truncate, List.map_map]
              simp only [ih]
              rfl
          | ref =>
              rw [unbounded, hkind]
              cases node.getString? "ref" <;> rfl
          | string =>
              rw [unbounded, hkind]
              cases isDatetime node <;> rfl
          | _ => rw [unbounded, hkind]; rfl

end Resolution

theorem fieldNesting_map_truncate {levels : Nat} {fields : List (String × NativeType)}
    (htruncate : ∀ type, (truncate levels type).nesting = min levels type.nesting) :
    fieldNesting (fields.map fun (name, type) => (name, truncate levels type)) =
      min levels (fieldNesting fields) := by
  induction fields with
  | nil => simp [fieldNesting]
  | cons field fields ih =>
      rw [List.map_cons, fieldNesting, fieldNesting, ih, htruncate]
      omega

theorem nesting_truncate (levels : Nat) (type : NativeType) :
    (truncate levels type).nesting = min levels type.nesting := by
  induction levels generalizing type with
  | zero => simp [truncate, nesting]
  | succ levels ih =>
      cases type with
      | list element =>
          rw [truncate, nesting, nesting, ih]
          omega
      | record fields =>
          rw [truncate, nesting, nesting, fieldNesting_map_truncate ih]
          omega
      | _ => simp [truncate, nesting]

theorem nesting_le_fieldNesting {fields : List (String × NativeType)} {field : String × NativeType}
    (hfield : field ∈ fields) : field.2.nesting ≤ fieldNesting fields := by
  induction fields with
  | nil => simp at hfield
  | cons first fields ih =>
      rw [fieldNesting]
      rcases List.mem_cons.mp hfield with rfl | hfield
      · omega
      · have hle := ih hfield
        omega

theorem truncate_of_nesting_lt {levels : Nat} {type : NativeType} (hlt : type.nesting < levels) :
    truncate levels type = type := by
  induction levels generalizing type with
  | zero => omega
  | succ levels ih =>
      cases type with
      | list element =>
          rw [nesting] at hlt
          rw [truncate, ih (by omega)]
      | record fields =>
          rw [nesting] at hlt
          have hfields :
              fields.map (fun (name, type) => (name, truncate levels type)) = fields := by
            refine (List.map_congr_left ?_).trans (List.map_id fields)
            rintro ⟨name, type⟩ hfield
            have hle := nesting_le_fieldNesting hfield
            exact congrArg (name, ·) (ih (Nat.lt_of_le_of_lt hle (by omega)))
          rw [truncate, hfields]
      | _ => rfl

/-- The native type of a node is its type without a bound, cut off at 33 levels. So it is that type
whenever it has fewer levels, and it never has more than 33. -/
theorem ofNode_eq_truncate (nsid : String) (node : Json) :
    ofNode nsid node = truncate 33 (unbounded nsid node) ∧
    ((unbounded nsid node).nesting < 33 → ofNode nsid node = unbounded nsid node) ∧
    (ofNode nsid node).nesting = min 33 (unbounded nsid node).nesting ∧
    (ofNode nsid node).nesting ≤ 33 := by
  have heq : ofNode nsid node = truncate 33 (unbounded nsid node) :=
    within_eq_truncate nsid (maxDepth + 1) node
  have hnesting := nesting_truncate 33 (unbounded nsid node)
  rw [heq]
  exact ⟨rfl, truncate_of_nesting_lt, hnesting, by omega⟩

def nestedArrays : Nat → Json
  | 0 => .object [("type", .string "integer")]
  | levels + 1 => .object [("items", nestedArrays levels), ("type", .string "array")]

theorem nesting_unbounded_nestedArrays (nsid : String) (levels : Nat) :
    (unbounded nsid (nestedArrays levels)).nesting = levels := by
  induction levels with
  | zero => rw [unbounded]; rfl
  | succ levels ih =>
      have hget : (nestedArrays (levels + 1)).get? "items" = some (nestedArrays levels) := rfl
      rw [unbounded_of_array rfl, hget, Option.map_some, Option.getD_some, nesting, ih]

/-- The deepest arrays that are resolved to their end. -/
theorem ofNode_eq_truncate_nestedArrays :
    (unbounded "a.b.c" (nestedArrays 32)).nesting < 33 ∧
      ofNode "a.b.c" (nestedArrays 32) = unbounded "a.b.c" (nestedArrays 32) := by
  have hnesting := nesting_unbounded_nestedArrays "a.b.c" 32
  exact ⟨by omega, (ofNode_eq_truncate "a.b.c" (nestedArrays 32)).2.1 (by omega)⟩

end NativeType

end Lexgen.Schema
