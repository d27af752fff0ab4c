import Lexgen.Proofs.OrderedMembers
import Lexgen.Schema.Native

/-!
Two walks of a node come to references. The one that resolves types goes from arrays to their
elements and from objects to their properties, and counts these; the one that records references
goes through every level of the JSON value. Here both are described by the depth of a reference in
the JSON value.
-/

namespace Lexgen

/-- The values one level below a value. -/
def Json.children : Json → List Json
  | .object members => members.map Prod.snd
  | .array items => items
  | _ => []

namespace Schema

/-- `Inside depth outer inner`: the value `inner` stands `depth` levels below `outer`. -/
inductive Inside : Nat → Json → Json → Prop where
  | here {node : Json} : Inside 0 node node
  | child {depth : Nat} {node next inner : Json} :
      next ∈ node.children → Inside depth next inner → Inside (depth + 1) node inner

variable {node inner : Json} {text key : String} {levels depth : Nat}

theorem Inside.trans {depth' : Nat} {innermost : Json} (houter : Inside depth node inner)
    (hinner : Inside depth' inner innermost) : Inside (depth' + depth) node innermost := by
  induction houter with
  | here => exact hinner
  | child hchild _ ih => exact .child hchild (ih hinner)

theorem inside_of_get? (hget : node.get? key = some inner) : Inside 1 node inner := by
  cases node with
  | object members =>
      exact .child (List.mem_map.mpr ⟨_, mem_of_findMember? hget, rfl⟩) .here
  | _ => simp [Json.get?] at hget

/-- The nodes of an object's properties. -/
def propertyNodes (node : Json) : List Json := ((properties? node).getD []).map Prod.snd

theorem inside_of_mem_propertyNodes (hmem : inner ∈ propertyNodes node) : Inside 2 node inner := by
  rw [propertyNodes, properties?] at hmem
  cases hproperties : node.get? "properties" with
  | none => simp [hproperties] at hmem
  | some properties =>
      have hchild : inner ∈ properties.children := by
        cases properties <;> simp_all [Json.members?, Json.children]
      exact (inside_of_get? hproperties).trans (.child hchild .here)

section Recorded

theorem referencesWithin_succ (levels : Nat) (node : Json) :
    referencesWithin (levels + 1) node =
      ownReferences node ++ node.children.flatMap (referencesWithin levels) := by
  cases node <;>
    simp [referencesWithin, ownReferences, Json.children, Kind.of?, Json.getString?, Json.get?,
      List.flatMap_map]

theorem mem_referencesWithin_iff :
    text ∈ referencesWithin levels node ↔
      ∃ depth < levels, ∃ inner, Inside depth node inner ∧ text ∈ ownReferences inner := by
  induction levels generalizing node with
  | zero => simp [referencesWithin]
  | succ levels ih =>
      rw [referencesWithin_succ, List.mem_append, List.mem_flatMap]
      constructor
      · rintro (hown | ⟨child, hchild, htext⟩)
        · exact ⟨0, by omega, node, .here, hown⟩
        · obtain ⟨depth, hdepth, inner, hinside, hown⟩ := ih.mp htext
          exact ⟨depth + 1, by omega, inner, .child hchild hinside, hown⟩
      · rintro ⟨depth, hdepth, inner, hinside, hown⟩
        -- The node makes the reference itself, or a child has it with one level less to go.
        cases hinside with
        | here => exact .inl hown
        | child hchild hinside =>
            exact .inr ⟨_, hchild, ih.mpr ⟨_, by omega, inner, hinside, hown⟩⟩

end Recorded

section Resolved

namespace NativeType

mutual

/-- The modules that a type refers to. -/
def modules : NativeType → List String
  | .list element => element.modules
  | .ref moduleName => [moduleName]
  | .record fields => fieldModules fields
  | _ => []

def fieldModules : List (String × NativeType) → List String
  | [] => []
  | (_, type) :: rest => type.modules ++ fieldModules rest

end

theorem fieldModules_eq (fields : List (String × NativeType)) :
    fieldModules fields = fields.flatMap fun field => field.2.modules := by
  induction fields with
  | nil => rfl
  | cons field rest ih => rw [fieldModules, List.flatMap_cons, ih]

end NativeType

/-- The references that a node at `depth` is resolved to, with at most `levels` levels of arrays and
objects looked at, each with its own depth. -/
def resolvedWithin : Nat → Nat → Json → List (Nat × String)
  | 0, _, _ => []
  | levels + 1, depth, node =>
    match Kind.of? node with
    | some .ref => (node.getString? "ref").toList.map (depth, ·)
    | some .array => (node.get? "items").toList.flatMap (resolvedWithin levels (depth + 1))
    | some .object => (propertyNodes node).flatMap (resolvedWithin levels (depth + 2))
    | _ => []

theorem modules_within (nsid : String) (levels depth : Nat) (node : Json) :
    (NativeType.within nsid levels node).modules =
      (resolvedWithin levels depth node).map fun found =>
        (Reference.parse nsid found.2).moduleName := by
  induction levels generalizing depth node with
  | zero => simp [NativeType.within, NativeType.modules, resolvedWithin]
  | succ levels ih =>
      rw [NativeType.within, resolvedWithin]
      cases Kind.of? node with
      | none => rfl
      | some kind =>
          cases kind with
          | ref => cases node.getString? "ref" <;> simp [NativeType.modules]
          | string => cases hdate : isDatetime node <;> simp [NativeType.modules]
          | array =>
              cases node.get? "items" with
              | none => simp [NativeType.modules]
              | some items => simpa [NativeType.modules] using ih (depth + 1) items
          | object =>
              simp only [NativeType.modules, NativeType.fieldModules_eq, propertyNodes,
                List.flatMap_map, List.map_flatMap, ih (depth + 2)]
          | _ => rfl

variable {found : Nat}

theorem exists_inside_of_mem_resolvedWithin
    (hmem : (found, text) ∈ resolvedWithin levels depth node) :
    ∃ below inner, found = below + depth ∧ below + 2 ≤ 2 * levels ∧ Inside below node inner ∧
      text ∈ ownReferences inner := by
  induction levels generalizing depth node with
  | zero => simp [resolvedWithin] at hmem
  | succ levels ih =>
      rw [resolvedWithin] at hmem
      split at hmem
      · rename_i hkind
        obtain ⟨_, htext, heq⟩ := List.mem_map.mp hmem
        obtain ⟨rfl, rfl⟩ := Prod.mk.inj heq
        exact ⟨0, node, by omega, by omega, .here, by simpa [ownReferences, hkind] using htext⟩
      · obtain ⟨items, hitems, hmem⟩ := List.mem_flatMap.mp hmem
        obtain ⟨below, inner, rfl, hbelow, hinside, hown⟩ := ih hmem
        have hstep : Inside 1 node items := inside_of_get? (Option.mem_toList.mp hitems)
        exact ⟨below + 1, inner, by omega, by omega, hstep.trans hinside, hown⟩
      · obtain ⟨property, hproperty, hmem⟩ := List.mem_flatMap.mp hmem
        obtain ⟨below, inner, rfl, hbelow, hinside, hown⟩ := ih hmem
        have hstep : Inside 2 node property := inside_of_mem_propertyNodes hproperty
        exact ⟨below + 2, inner, by omega, by omega, hstep.trans hinside, hown⟩
      · simp at hmem

end Resolved

end Schema

end Lexgen
