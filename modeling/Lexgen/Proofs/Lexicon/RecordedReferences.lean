import Lexgen.Lexicon.Basic
import Lexgen.Proofs.Definition.Places
import Lexgen.Proofs.Schema.NestedReferences

namespace Lexgen

open Lexgen.Schema

namespace Definition

def fieldModules (fields : List Field) : List String :=
  fields.flatMap fun field => field.native.modules

/-- The modules that the types in a definition refer to. -/
def modules : Definition → List String
  | .struct d => fieldModules d.fields
  | .record d => fieldModules d.fields
  | .call _ d =>
    fieldModules d.inputFields ++ d.inputType.toList.flatMap NativeType.modules ++
      d.outputType.modules

/-- The schema of a call's input or output. -/
def bodySchema? (node : Json) (body : String) : Option Json :=
  (node.get? body).bind fun value => value.get? "schema"

/-- The nodes that the input types of a procedure are made from: the properties of a body that is an
object, else the body as a whole. -/
def inputRoots (node : Json) : List (Nat × Json) :=
  match bodySchema? node "input" with
  | some schema =>
    if Kind.of? schema = some .object then (propertyNodes schema).map (4, ·) else [(2, schema)]
  | none => []

def outputRoots (node : Json) : List (Nat × Json) := (bodySchema? node "output").toList.map (2, ·)

/-- The properties of a member of an entry. -/
def memberRoots (node : Json) (member : String) : List (Nat × Json) :=
  (propertyNodes ((node.get? member).getD .null)).map (3, ·)

/-- The nodes that the types of an entry's definition are made from, with their depths in the
entry. -/
def typeRoots (node : Json) : List (Nat × Json) :=
  match Kind.of? node with
  | some .object => (propertyNodes node).map (2, ·)
  | some .record => memberRoots node "record"
  | some .query => memberRoots node "parameters" ++ outputRoots node
  | some .procedure => inputRoots node ++ outputRoots node
  | _ => []

/-- The references that an entry is resolved to, with at most `levels` levels of arrays and objects
looked at below each field and body, each with its depth in the entry. -/
def resolvedReferences (levels : Nat) (node : Json) : List (Nat × String) :=
  (typeRoots node).flatMap fun root => resolvedWithin levels root.1 root.2

section Modules

variable {nsid key : String} {node : Json} {d : Definition}

theorem fieldModules_ofNode (nsid : String) (node : Json) :
    fieldModules (Field.ofNode nsid node) =
      (propertyNodes node).flatMap fun property => (NativeType.ofNode nsid property).modules := by
  simp [fieldModules, Field.ofNode, Field.ofProperty, propertyNodes, List.flatMap_map]

theorem modules_bodyType (nsid : String) (body : Json) :
    (bodyType nsid body).modules =
      (body.get? "schema").toList.flatMap fun schema =>
        (NativeType.ofNode nsid schema).modules := by
  rw [bodyType]
  cases body.get? "schema" with
  | some schema => simp
  | none =>
      cases body.getString? "encoding" with
      | none => rfl
      | some encoding => by_cases h : encoding = "application/json" <;> simp [h, NativeType.modules]

theorem modules_outputType (nsid key : String) (node : Json) :
    (callWithoutInput nsid key node).outputType.modules =
      (outputRoots node).flatMap fun root => (NativeType.ofNode nsid root.2).modules := by
  rw [callWithoutInput, outputRoots, bodySchema?]
  cases node.get? "output" with
  | none => rfl
  | some output => simp [modules_bodyType, List.flatMap_map]

theorem fieldModules_memberRoots (nsid member : String) (node : Json) :
    fieldModules (Field.ofNode nsid ((node.get? member).getD .null)) =
      (memberRoots node member).flatMap fun root => (NativeType.ofNode nsid root.2).modules := by
  rw [fieldModules_ofNode, memberRoots, List.flatMap_map]

theorem modules_ofNode_of_propertyNodes_eq_nil (hkind : Kind.of? node = some .object)
    (hproperties : propertyNodes node = []) : (NativeType.ofNode nsid node).modules = [] := by
  have hresolved := modules_within nsid (maxDepth + 1) 0 node
  rw [resolvedWithin, hkind, hproperties] at hresolved
  simpa [NativeType.ofNode] using hresolved

theorem modules_body (nsid : String) (body schema : Json)
    (hschema : body.get? "schema" = some schema) :
    fieldModules (bodyFields nsid body) ++
        (if (bodyFields nsid body).isEmpty then (bodyType nsid body).modules else []) =
      (if Kind.of? schema = some .object then (propertyNodes schema).map (4, ·)
        else [(2, schema)]).flatMap fun root => (NativeType.ofNode nsid root.2).modules := by
  by_cases hkind : Kind.of? schema = some .object
  · have hfields : bodyFields nsid body = Field.ofNode nsid schema := by
      simp [bodyFields, hschema, hkind]
    -- An object without properties is taken as a whole, but there is nothing in it to refer to.
    by_cases hempty : propertyNodes schema = []
    · have hnone : Field.ofNode nsid schema = [] := by
        simpa [propertyNodes, Field.ofNode] using hempty
      simp [hkind, hfields, hnone, hempty, fieldModules, modules_bodyType, hschema,
        modules_ofNode_of_propertyNodes_eq_nil hkind hempty]
    · have hsome : Field.ofNode nsid schema ≠ [] := by
        simpa [propertyNodes, Field.ofNode] using hempty
      simp [hkind, hfields, hsome, fieldModules_ofNode, List.flatMap_map]
  · simp [bodyFields, hschema, hkind, fieldModules, modules_bodyType]

theorem modules_input (nsid key : String) (node : Json) :
    fieldModules (ofProcedure nsid key node).inputFields ++
        (ofProcedure nsid key node).inputType.toList.flatMap NativeType.modules =
      (inputRoots node).flatMap fun root => (NativeType.ofNode nsid root.2).modules := by
  rw [ofProcedure, inputRoots, bodySchema?]
  cases node.get? "input" with
  | none => rfl
  | some input =>
      have htype : (if (bodyFields nsid input).isEmpty then some (bodyType nsid input)
          else none).toList.flatMap NativeType.modules =
            if (bodyFields nsid input).isEmpty then (bodyType nsid input).modules else [] := by
        split <;> simp
      simp only [htype, Option.bind_some]
      obtain hschema | ⟨schema, hschema⟩ := Option.eq_none_or_eq_some (input.get? "schema")
      · simp [hschema, bodyFields, fieldModules, modules_bodyType]
      · simp only [hschema]
        exact modules_body nsid input schema hschema

theorem modules_of_ofNode_eq_ok (hnode : ofNode nsid key node = .ok d) :
    d.modules = (resolvedReferences (maxDepth + 1) node).map fun found =>
      (Reference.parse nsid found.2).moduleName := by
  have hroots : (resolvedReferences (maxDepth + 1) node).map
      (fun found => (Reference.parse nsid found.2).moduleName) =
        (typeRoots node).flatMap fun root => (NativeType.ofNode nsid root.2).modules := by
    simp only [resolvedReferences, List.map_flatMap, NativeType.ofNode, ← modules_within]
  rw [hroots, typeRoots]
  rw [ofNode] at hnode
  generalize Kind.of? node = kind? at hnode ⊢
  cases kind? with
  | none => simp at hnode
  | some kind =>
      cases kind with
      | object =>
          obtain rfl := Except.ok.inj hnode
          simp [modules, ofObject, fieldModules_ofNode, List.flatMap_map]
      | record =>
          obtain rfl := Except.ok.inj hnode
          exact fieldModules_memberRoots nsid "record" node
      | query =>
          obtain rfl := Except.ok.inj hnode
          rw [List.flatMap_append, ← fieldModules_memberRoots, ← modules_outputType nsid key]
          simp [modules, ofQuery, callWithoutInput]
      | procedure =>
          obtain rfl := Except.ok.inj hnode
          rw [List.flatMap_append, ← modules_input nsid key, ← modules_outputType nsid key]
          rw [modules, ofProcedure]
          cases node.get? "input" <;> rfl
      | _ => simp at hnode

end Modules

section Depths

variable {node root : Json} {depth levels : Nat} {text : String}

theorem mem_map_at_iff {nodes : List Json} {n : Nat} :
    (depth, root) ∈ nodes.map (n, ·) ↔ depth = n ∧ root ∈ nodes := by
  simp [eq_comm, and_comm]

theorem inside_of_mem_memberRoots {member : String}
    (hroot : (depth, root) ∈ memberRoots node member) :
    depth ≤ 4 ∧ Inside depth node root := by
  obtain ⟨rfl, hproperty⟩ := mem_map_at_iff.mp hroot
  cases hmember : node.get? member with
  | none =>
      rw [hmember] at hproperty
      simp [propertyNodes, properties?, Json.get?] at hproperty
  | some value =>
      rw [hmember] at hproperty
      exact ⟨by decide, (inside_of_get? hmember).trans (inside_of_mem_propertyNodes hproperty)⟩

theorem inside_of_bodySchema? {body : String} (hschema : bodySchema? node body = some root) :
    Inside 2 node root := by
  obtain ⟨value, hvalue, hschema⟩ := Option.bind_eq_some_iff.mp hschema
  exact (inside_of_get? hvalue).trans (inside_of_get? hschema)

theorem inside_of_mem_outputRoots (hroot : (depth, root) ∈ outputRoots node) :
    depth ≤ 4 ∧ Inside depth node root := by
  obtain ⟨rfl, hschema⟩ := mem_map_at_iff.mp hroot
  exact ⟨by decide, inside_of_bodySchema? (Option.mem_toList.mp hschema)⟩

theorem inside_of_mem_inputRoots (hroot : (depth, root) ∈ inputRoots node) :
    depth ≤ 4 ∧ Inside depth node root := by
  rw [inputRoots] at hroot
  split at hroot
  · rename_i schema hschema
    split at hroot
    · obtain ⟨rfl, hproperty⟩ := mem_map_at_iff.mp hroot
      exact ⟨le_rfl,
        (inside_of_bodySchema? hschema).trans (inside_of_mem_propertyNodes hproperty)⟩
    · obtain ⟨rfl, rfl⟩ := Prod.mk.inj (List.mem_singleton.mp hroot)
      exact ⟨by decide, inside_of_bodySchema? hschema⟩
  · simp at hroot

theorem inside_of_mem_typeRoots (hroot : (depth, root) ∈ typeRoots node) :
    depth ≤ 4 ∧ Inside depth node root := by
  rw [typeRoots] at hroot
  split at hroot
  · obtain ⟨rfl, hproperty⟩ := mem_map_at_iff.mp hroot
    exact ⟨by decide, inside_of_mem_propertyNodes hproperty⟩
  · exact inside_of_mem_memberRoots hroot
  · exact (List.mem_append.mp hroot).elim inside_of_mem_memberRoots inside_of_mem_outputRoots
  · exact (List.mem_append.mp hroot).elim inside_of_mem_inputRoots inside_of_mem_outputRoots
  · simp at hroot

theorem exists_inside_of_mem_resolvedReferences
    (hmem : (depth, text) ∈ resolvedReferences levels node) :
    depth ≤ 2 * levels + 2 ∧ ∃ inner, Inside depth node inner ∧ text ∈ ownReferences inner := by
  obtain ⟨⟨start, root⟩, hroot, hmem⟩ := List.mem_flatMap.mp hmem
  obtain ⟨hstart, houter⟩ := inside_of_mem_typeRoots hroot
  obtain ⟨below, inner, rfl, hbelow, hinner, hown⟩ := exists_inside_of_mem_resolvedWithin hmem
  exact ⟨by omega, inner, houter.trans hinner, hown⟩

end Depths

end Definition

namespace Definitions

def toList (ds : Definitions) : List Definition :=
  ds.structs.map .struct ++ ds.record.toList.map .record ++
    ds.call.toList.map fun call => .call call.1 call.2

/-- The modules that the types in the definitions refer to. -/
def modules (ds : Definitions) : List String := ds.toList.flatMap Definition.modules

section Members

variable {ds : Definitions} {d e : Definition}

theorem struct_mem_toList_iff {d : StructDef} : .struct d ∈ ds.toList ↔ d ∈ ds.structs := by
  simp [toList]

theorem record_mem_toList_iff {d : RecordDef} : .record d ∈ ds.toList ↔ ds.record = some d := by
  simp [toList]

theorem call_mem_toList_iff {kind : CallKind} {d : CallDef} :
    .call kind d ∈ ds.toList ↔ ds.call = some (kind, d) := by
  simp [toList]

theorem mem_toList_of_offer (hmem : e ∈ (ds.offer d).1.toList) : e ∈ ds.toList ∨ e = d := by
  cases e with
  | struct e =>
      rw [struct_mem_toList_iff, structs_offer, List.mem_append, Option.mem_toList] at hmem
      rw [struct_mem_toList_iff]
      exact hmem.imp_right fun hnew => by cases d <;> simp_all [Definition.struct?]
  | record e =>
      rw [record_mem_toList_iff, record_offer, Option.or_eq_some_iff] at hmem
      rw [record_mem_toList_iff]
      exact hmem.imp_right fun hnew => by cases d <;> simp_all [Definition.record?]
  | call kind e =>
      rw [call_mem_toList_iff, call_offer, Option.or_eq_some_iff] at hmem
      rw [call_mem_toList_iff]
      exact hmem.imp_right fun hnew => by cases d <;> simp_all [Definition.call?]

end Members

end Definitions

namespace Lexicon

variable {nsid key : String} {node : Json} {ds : Definitions} {d : Definition}
  {entries : List (String × Json)} {doc : Document}

theorem mem_toList_addEntry (hmem : d ∈ (addEntry nsid ds key node).1.toList) :
    d ∈ ds.toList ∨ Definition.ofNode nsid key node = .ok d := by
  cases hnode : Definition.ofNode nsid key node with
  | error kind =>
      rw [addEntry_of_error ds hnode] at hmem
      exact .inl hmem
  | ok e =>
      rw [addEntry_of_ok ds hnode] at hmem
      exact (Definitions.mem_toList_of_offer hmem).imp_right (congrArg Except.ok ·.symm)

theorem mem_toList_addEntries (hmem : d ∈ (addEntries nsid ds entries).1.toList) :
    d ∈ ds.toList ∨
      ∃ key node, (key, node) ∈ entries ∧ Definition.ofNode nsid key node = .ok d := by
  induction entries generalizing ds with
  | nil => exact .inl hmem
  | cons entry rest ih =>
      rcases ih hmem with hearlier | ⟨key, node, hentry, hnode⟩
      · rcases mem_toList_addEntry hearlier with hbefore | hnode
        · exact .inl hbefore
        · exact .inr ⟨entry.1, entry.2, List.mem_cons_self, hnode⟩
      · exact .inr ⟨key, node, List.mem_cons_of_mem _ hentry, hnode⟩

/-- A definition that the document keeps has a type resolved from the reference `text`, which stands
`depth` levels of JSON below the entry and at most `levels` arrays and objects below a field or a
body, itself included. -/
def ResolvedAt (doc : Document) (levels depth : Nat) (text : String) : Prop :=
  ∃ key node d, (key, node) ∈ doc.defs ∧ Definition.ofNode doc.id key node = .ok d ∧
    d ∈ (ofDocument doc).1.definitions.toList ∧
    (depth, text) ∈ Definition.resolvedReferences levels node

/-- Some node of the document makes the reference `text`, `depth` levels of JSON below its entry. -/
def MentionedAt (doc : Document) (depth : Nat) (text : String) : Prop :=
  ∃ key node inner, (key, node) ∈ doc.defs ∧ Inside depth node inner ∧ text ∈ ownReferences inner

theorem exists_entry_of_mem_definitions (hmem : d ∈ (ofDocument doc).1.definitions.toList) :
    ∃ key node, (key, node) ∈ doc.defs ∧ Definition.ofNode doc.id key node = .ok d := by
  rcases mem_toList_addEntries hmem with hnone | hentry
  · simp [Definitions.toList, Definitions.call] at hnone
  · exact hentry

theorem mem_modules_iff {m : String} :
    m ∈ (ofDocument doc).1.definitions.modules ↔
      ∃ depth text, ResolvedAt doc (maxDepth + 1) depth text ∧
        (Reference.parse doc.id text).moduleName = m := by
  constructor
  · intro hm
    obtain ⟨d, hd, hm⟩ := List.mem_flatMap.mp hm
    obtain ⟨key, node, hentry, hnode⟩ := exists_entry_of_mem_definitions hd
    rw [Definition.modules_of_ofNode_eq_ok hnode] at hm
    obtain ⟨⟨depth, text⟩, hresolved, rfl⟩ := List.mem_map.mp hm
    exact ⟨depth, text, ⟨key, node, d, hentry, hnode, hd, hresolved⟩, rfl⟩
  · rintro ⟨depth, text, ⟨key, node, d, hentry, hnode, hd, hresolved⟩, rfl⟩
    refine List.mem_flatMap.mpr ⟨d, hd, ?_⟩
    rw [Definition.modules_of_ofNode_eq_ok hnode]
    exact List.mem_map.mpr ⟨(depth, text), hresolved, rfl⟩

theorem mem_references_iff {q : String} :
    q ∈ (ofDocument doc).1.references ↔
      ∃ depth ≤ maxDepth, ∃ text, MentionedAt doc depth text ∧
        (Reference.parse doc.id text).qualified = q := by
  have hrecorded : q ∈ (ofDocument doc).1.references ↔
      ∃ entry ∈ doc.defs, q ∈ Schema.references doc.id entry.2 := by
    simp only [ofDocument, mem_sortedSet, List.mem_flatMap]
  rw [hrecorded]
  simp only [Schema.references, List.mem_map, mem_referencesWithin_iff]
  constructor
  · rintro ⟨⟨key, node⟩, hentry, text, ⟨depth, hdepth, inner, hinside, hown⟩, rfl⟩
    exact ⟨depth, by omega, text, ⟨key, node, inner, hentry, hinside, hown⟩, rfl⟩
  · rintro ⟨depth, hdepth, text, ⟨key, node, inner, hentry, hinside, hown⟩, rfl⟩
    exact ⟨(key, node), hentry, text, ⟨depth, by omega, inner, hinside, hown⟩, rfl⟩

theorem ResolvedAt.mentionedAt {levels depth : Nat} {text : String}
    (hresolved : ResolvedAt doc levels depth text) :
    MentionedAt doc depth text ∧ (levels ≤ 15 → depth ≤ maxDepth) := by
  obtain ⟨key, node, d, hentry, -, -, hresolved⟩ := hresolved
  obtain ⟨hdepth, inner, hinside, hown⟩ :=
    Definition.exists_inside_of_mem_resolvedReferences hresolved
  refine ⟨⟨key, node, inner, hentry, hinside, hown⟩, ?_⟩
  intro hlevels
  -- Four levels to the field or body and two for each of fourteen levels below it.
  have hmax : maxDepth = 32 := rfl
  omega

/-- What a lexicon records of the references that its types come from. The types refer to the
modules of the resolved references; of these, all are recorded that stand within `maxDepth` levels
of JSON, so all that are at most fourteen arrays and objects down; and nothing deeper is recorded
unless it is mentioned within these levels too. -/
theorem resolved_recorded_within_depth (doc : Document) :
    (∀ m, m ∈ (ofDocument doc).1.definitions.modules ↔
      ∃ depth text, ResolvedAt doc (maxDepth + 1) depth text ∧
        (Reference.parse doc.id text).moduleName = m) ∧
    (∀ levels depth text, ResolvedAt doc levels depth text → depth ≤ maxDepth ∨ levels ≤ 15 →
      (Reference.parse doc.id text).qualified ∈ (ofDocument doc).1.references) ∧
    ∀ q, q ∈ (ofDocument doc).1.references ↔
      ∃ depth ≤ maxDepth, ∃ text, MentionedAt doc depth text ∧
        (Reference.parse doc.id text).qualified = q := by
  refine ⟨fun m => mem_modules_iff, ?_, fun q => mem_references_iff⟩
  intro levels depth text hresolved hshallow
  obtain ⟨hmentioned, hlevels⟩ := hresolved.mentionedAt
  exact mem_references_iff.mpr ⟨depth, hshallow.elim id hlevels, text, hmentioned, rfl⟩

section Nested

/-- A reference inside `n` objects that are written in place. -/
def nestedReference : Nat → Json
  | 0 => .object [("ref", .string "com.example.leaf"), ("type", .string "ref")]
  | n + 1 =>
    .object [("properties", .object [("inner", nestedReference n)]), ("type", .string "object")]

def nestedRecord (n : Nat) : Json :=
  .object [
    ("key", .string "tid"),
    ("record", .object [
      ("properties", .object [("root", nestedReference n)]), ("type", .string "object")]),
    ("type", .string "record")]

def nestedDocument (n : Nat) : Document :=
  { lexicon := some 1, id := "com.example.deep", defs := [("main", nestedRecord n)] }

theorem resolvedAt_nestedDocument {n levels depth : Nat}
    (hdepth : (depth, "com.example.leaf") ∈ Definition.resolvedReferences levels (nestedRecord n)) :
    ResolvedAt (nestedDocument n) levels depth "com.example.leaf" :=
  ⟨"main", nestedRecord n, _, List.mem_singleton_self _, rfl, List.mem_singleton_self _, hdepth⟩

theorem resolved_recorded_nestedDocument :
    ResolvedAt (nestedDocument 14) 15 31 "com.example.leaf" ∧
      "com.example.leaf#main" ∈ (ofDocument (nestedDocument 14)).1.references := by
  have hresolved : ResolvedAt (nestedDocument 14) 15 31 "com.example.leaf" :=
    resolvedAt_nestedDocument (by decide +kernel)
  exact ⟨hresolved, (resolved_recorded_within_depth (nestedDocument 14)).2.1 _ _ _ hresolved
    (.inr le_rfl)⟩

/-- One object more, and the reference is resolved but not recorded. -/
theorem nestedDocument_resolved_not_recorded :
    Document.ofJson (nestedDocument 15).toJson = .ok (nestedDocument 15) ∧
      ResolvedAt (nestedDocument 15) (maxDepth + 1) 33 "com.example.leaf" ∧
      "Com.Example.Leaf.Main" ∈ (ofDocument (nestedDocument 15)).1.definitions.modules ∧
      (Reference.parse "com.example.deep" "com.example.leaf").qualified ∉
        (ofDocument (nestedDocument 15)).1.references := by
  refine ⟨rfl, resolvedAt_nestedDocument (by decide +kernel), ?_, ?_⟩
  · decide +kernel
  · decide +kernel

end Nested

end Lexicon

end Lexgen
