import Mathlib.Data.List.Basic
import Lexgen.Emit.RecordFile
import Lexgen.Proofs.Schema.ConstraintSets

namespace Lexgen.Emit

open Lexgen.Schema

section Schema

def statedProperties (node : Json) : List (String × Json) :=
  match node.get? "properties" with
  | some (.object members) => members
  | _ => []

def isListed (node : Json) (name : String) : Bool :=
  match node.get? "required" with
  | some (.array items) => items.any fun item => item.string? == some name
  | _ => false

/-- What can be bounded in the values of a property, each with the two members that hold the
bounds. -/
def statedPairs (property : Json) : List (Measure × String × String) :=
  match property.getString? "type" with
  | some "integer" => [(.range, "minimum", "maximum")]
  | some "bytes" => [(.byteLength, "minLength", "maxLength")]
  | some "string" =>
    if property.getString? "format" = some "datetime" then []
    else
      [(.byteLength, "minLength", "maxLength"), (.graphemeLength, "minGraphemes", "maxGraphemes")]
  | some "array" => [(.itemCount, "minLength", "maxLength")]
  | _ => []

/-- A side of a bound: a member that is an integer of 64 bits with a sign. -/
def statedSide? (property : Json) (key : String) : Option Int :=
  match property.get? key with
  | some (.number (.integer n)) =>
    if Int64.minValue.toInt ≤ n ∧ n ≤ Int64.maxValue.toInt then some n else none
  | _ => none

/-- A bound with the sides that two members give it; nothing if neither gives one. -/
def statedCheck? (property : Json) : Measure × String × String → Option BoundCheck
  | (measure, minKey, maxKey) =>
    match statedSide? property minKey, statedSide? property maxKey with
    | none, none => none
    | min, max => some ⟨measure, min, max⟩

def statedChecks (property : Json) : List BoundCheck :=
  (statedPairs property).filterMap (statedCheck? property)

/-- The validation that a schema asks for: cast what it describes, require what it lists, and check
the properties that have bounds. -/
def statedSteps (node : Json) : List ValidationStep :=
  let names := (statedProperties node).map Prod.fst
  let required := names.filter (isListed node)
  (if names = [] then [] else [.cast names]) ++
    (if required = [] then [] else [.require required]) ++
    (statedProperties node).filterMap fun (name, property) =>
      if statedChecks property = [] then none else some (.check name (statedChecks property))

end Schema

/-- The option that gives a side of a bound in the emitted code. -/
inductive IsBoundOption (c : BoundCheck) : String → Prop where
  | min {n : Int} : c.min = some n → IsBoundOption c
      ((if c.measure = .range then "greater_than_or_equal_to" else "min") ++ ": " ++
        (Number.integer n).text)
  | max {n : Int} : c.max = some n → IsBoundOption c
      ((if c.measure = .range then "less_than_or_equal_to" else "max") ++ ": " ++
        (Number.integer n).text)

/-- A line of the emitted code that checks a bound of a field, with an option for one side at
least. -/
def IsBoundLine (name : String) (c : BoundCheck) (line : String) : Prop :=
  ∃ (function : String) (options : List String),
    line = "    |> " ++ function ++ "(" ++ atom name ++ ", " ++ ", ".intercalate options ++ ")" ∧
      function ∈ ["validate_number", "validate_length"] ∧
      ∃ option ∈ options, IsBoundOption c option

section Members

variable {node property : Json} {name key : String}

theorem properties?_getD (node : Json) : (properties? node).getD [] = statedProperties node := by
  rw [properties?, statedProperties]
  cases node.get? "properties" with
  | none => rfl
  | some properties => cases properties <;> rfl

theorem string?_eq_some_iff {value : Json} : value.string? = some name ↔ value = .string name := by
  cases value <;> simp [Json.string?]

theorem isListed_iff : isListed node name = true ↔
    ∃ items, node.get? "required" = some (.array items) ∧ .string name ∈ items := by
  rw [isListed]
  split
  · rename_i items hget
    simp [hget, string?_eq_some_iff]
  · rename_i hget
    constructor
    · simp
    · rintro ⟨items, heq, -⟩
      exact absurd heq (hget items)

theorem contains_requiredNames (node : Json) (name : String) :
    (requiredNames node).contains name = isListed node name := by
  rw [Bool.eq_iff_iff, isListed_iff, List.contains_iff_mem, requiredNames, List.mem_filterMap]
  cases node.get? "required" with
  | none => simp
  | some required => cases required <;> simp [Json.items?, string?_eq_some_iff]

theorem statedSide?_eq_some_iff {n : Int} : statedSide? property key = some n ↔
    property.get? key = some (.number (.integer n)) ∧
      Int64.minValue.toInt ≤ n ∧ n ≤ Int64.maxValue.toInt := by
  rw [statedSide?]
  split
  · rename_i m hget
    rw [hget]
    constructor
    · intro hside
      split at hside
      · rename_i hrange
        rw [← Option.some.inj hside]
        exact ⟨rfl, hrange⟩
      · simp at hside
    · rintro ⟨heq, hrange⟩
      simp only [Option.some.injEq, Json.number.injEq, Number.integer.injEq] at heq
      rw [heq, if_pos hrange]
  · rename_i hget
    constructor
    · simp
    · rintro ⟨heq, -⟩
      exact absurd heq (hget n)

theorem statedSide?_eq (property : Json) (key : String) :
    statedSide? property key = (property.get? key).bind Json.int64? := by
  have hleast : Int64.minValue.toInt = -(Word.half64 : Int) := by decide
  have hgreatest : Int64.maxValue.toInt = (Word.half64 : Int) - 1 := by decide
  rw [statedSide?]
  cases property.get? key with
  | none => rfl
  | some value =>
      cases value with
      | number n =>
          cases n with
          | integer n =>
              simp only [Option.bind_some, Json.int64?, hleast, hgreatest, Int.le_sub_one_iff]
          | real d => rfl
      | _ => rfl

end Members

section Checks

variable {property : Json} {kind : Kind}

theorem ofPair?_eq (hkind : Kind.of? property = some kind) (measure : Measure)
    {min max : Constraint} (hmin : min ∈ Constraint.applicable kind)
    (hmax : max ∈ Constraint.applicable kind) :
    BoundCheck.ofPair? (Constraints.ofNode property) measure min max =
      statedCheck? property (measure, min.key, max.key) := by
  rw [BoundCheck.ofPair?, Constraints.bound?_ofNode hkind hmin,
    Constraints.bound?_ofNode hkind hmax, ← statedSide?_eq, ← statedSide?_eq, statedCheck?]
  cases statedSide? property min.key <;> cases statedSide? property max.key <;> rfl

theorem boundChecks_of_isEmpty {f : Field} (hempty : f.constraints.isEmpty = true) :
    boundChecks f = [] := by
  have hbound (c : Constraint) : f.constraints.bound? c = none := by
    rw [Constraints.bound?, Constraints.get?, List.isEmpty_iff.mp hempty]
    rfl
  rw [boundChecks, List.filterMap_eq_nil_iff]
  rintro ⟨measure, min, max⟩ -
  simp [BoundCheck.ofPair?, hbound]

theorem isEmpty_ofNode (hkind : Kind.of? property = some kind)
    (hnone : Constraint.applicable kind = []) : (Constraints.ofNode property).isEmpty = true := by
  rw [Constraints.isEmpty, Constraints.entries_ofNode hkind, hnone]
  rfl

theorem statedPairs_of_none (hkind : Kind.of? property = none) : statedPairs property = [] := by
  have hne (kind : Kind) : property.getString? "type" ≠ some kind.tag := by
    intro htype
    rw [Kind.of?_eq_some_iff.mpr htype] at hkind
    exact absurd hkind (by simp)
  rw [statedPairs]
  split
  · exact absurd ‹_› (hne .integer)
  · exact absurd ‹_› (hne .bytes)
  · exact absurd ‹_› (hne .string)
  · exact absurd ‹_› (hne .array)
  · rfl

def pairKeys : Measure × Constraint × Constraint → Measure × String × String
  | (measure, min, max) => (measure, min.key, max.key)

theorem boundPairs_ofNode (hkind : Kind.of? property = some kind) (hlink : kind ≠ .cidLink) :
    (boundPairs (StorageType.ofNode property)).map pairKeys = statedPairs property ∧
      ∀ pair ∈ boundPairs (StorageType.ofNode property),
        pair.2.1 ∈ Constraint.applicable kind ∧ pair.2.2 ∈ Constraint.applicable kind := by
  rw [StorageType.ofNode, StorageType.within, hkind, statedPairs, Kind.of?_eq_some_iff.mp hkind]
  cases kind with
  | cidLink => exact absurd rfl hlink
  | string =>
      simp only [Kind.tag, isDatetime, beq_iff_eq]
      split
      · exact ⟨rfl, by decide⟩
      · exact ⟨rfl, by decide⟩
  | array =>
      cases property.get? "items" <;> exact ⟨rfl, by simp [boundPairs, Constraint.applicable]⟩
  | _ => exact ⟨rfl, by simp [boundPairs, Constraint.applicable]⟩

theorem boundChecks_ofProperty (nsid : String) (required : List String) (name : String)
    (property : Json) :
    boundChecks (Field.ofProperty nsid required name property) = statedChecks property := by
  cases hkind : Kind.of? property with
  | none =>
      have hstorage : StorageType.ofNode property = .structured := by
        rw [StorageType.ofNode, StorageType.within, hkind]
      rw [boundChecks, statedChecks, statedPairs_of_none hkind]
      simp [Field.ofProperty, hstorage, boundPairs]
  | some kind =>
      by_cases hlink : kind = .cidLink
      · subst hlink
        -- Its storage type has pairs, but its constraint set is empty.
        have hpairs : statedPairs property = [] := by
          rw [statedPairs, Kind.of?_eq_some_iff.mp hkind]
          rfl
        rw [boundChecks_of_isEmpty (isEmpty_ofNode hkind rfl), statedChecks, hpairs]
        rfl
      · obtain ⟨hpairs, happlicable⟩ := boundPairs_ofNode hkind hlink
        rw [statedChecks, ← hpairs, List.filterMap_map]
        apply List.filterMap_congr
        rintro ⟨measure, min, max⟩ hpair
        obtain ⟨hmin, hmax⟩ := happlicable _ hpair
        exact ofPair?_eq hkind measure hmin hmax

theorem checkSteps_fst (fields : List Field) :
    (checkSteps fields).1 = fields.filterMap fun f =>
      if boundChecks f = [] then none else some (.check f.name (boundChecks f)) := by
  induction fields with
  | nil => rfl
  | cons f fields ih =>
      rw [checkSteps, List.filterMap_cons, ← ih]
      by_cases hempty : f.constraints.isEmpty = true
      · simp [hempty, boundChecks_of_isEmpty hempty]
      · by_cases hchecks : boundChecks f = []
        · simp [hempty, hchecks]
        · simp [hempty, hchecks]

theorem stepOver_eq (step : List String → ValidationStep) (fields : List Field) :
    stepOver step fields =
      if fields.map (·.name) = [] then [] else [step (fields.map (·.name))] := by
  cases fields <;> rfl

end Checks

section Validation

variable (nsid : String) (node : Json)

theorem ofNode_eq_map : Field.ofNode nsid node = (statedProperties node).map fun (name, property) =>
    Field.ofProperty nsid (requiredNames node) name property := by
  rw [Field.ofNode, properties?_getD]

theorem map_name_ofNode :
    (Field.ofNode nsid node).map (·.name) = (statedProperties node).map Prod.fst := by
  rw [ofNode_eq_map, List.map_map]
  rfl

theorem map_name_filter_required :
    ((Field.ofNode nsid node).filter (·.required)).map (·.name) =
      ((statedProperties node).map Prod.fst).filter (isListed node) := by
  have hfilter : (statedProperties node).filter (fun property =>
      (requiredNames node).contains property.1) =
        (statedProperties node).filter (isListed node ∘ Prod.fst) :=
    List.filter_congr fun property _ => contains_requiredNames node property.1
  rw [ofNode_eq_map, List.filter_map, List.map_map, List.filter_map, ← hfilter]
  rfl

theorem validation_ofNode : (validation (Field.ofNode nsid node)).1 = statedSteps node := by
  rw [validation, statedSteps]
  simp only
  rw [stepOver_eq, stepOver_eq, map_name_ofNode, map_name_filter_required, checkSteps_fst,
    ofNode_eq_map, List.filterMap_map]
  congr 2
  funext property
  simp only [Function.comp_apply, boundChecks_ofProperty]
  rfl

end Validation

section Lines

theorem isSome_of_mem_statedChecks {property : Json} {c : BoundCheck}
    (hc : c ∈ statedChecks property) : c.min.isSome ∨ c.max.isSome := by
  obtain ⟨⟨measure, minKey, maxKey⟩, -, hcheck⟩ := List.mem_filterMap.mp hc
  rw [statedCheck?] at hcheck
  generalize statedSide? property minKey = min at hcheck
  generalize statedSide? property maxKey = max at hcheck
  cases min with
  | none =>
      cases max with
      | none => exact absurd hcheck (by simp)
      | some n =>
          obtain rfl := Option.some.inj hcheck
          exact .inr rfl
  | some n =>
      obtain rfl := Option.some.inj hcheck
      exact .inl rfl

theorem isBoundLine_line (name : String) {c : BoundCheck} (hside : c.min.isSome ∨ c.max.isSome) :
    IsBoundLine name c (c.line (atom name)) := by
  refine ⟨c.function, c.options, rfl, ?_, ?_⟩
  · rw [BoundCheck.function]
    split <;> simp
  · rcases hside with hmin | hmax
    · obtain ⟨n, hn⟩ := Option.isSome_iff_exists.mp hmin
      refine ⟨_, ?_, .min hn⟩
      by_cases hrange : c.measure = .range <;> simp [BoundCheck.options, hrange, hn]
    · obtain ⟨n, hn⟩ := Option.isSome_iff_exists.mp hmax
      refine ⟨_, ?_, .max hn⟩
      by_cases hrange : c.measure = .range <;> simp [BoundCheck.options, hrange, hn]

theorem exists_of_check_mem {node : Json} {name : String} {checks : List BoundCheck}
    (hcheck : ValidationStep.check name checks ∈ statedSteps node) :
    ∃ property, (name, property) ∈ statedProperties node ∧ checks = statedChecks property ∧
      checks ≠ [] := by
  rw [statedSteps] at hcheck
  simp only [List.mem_append] at hcheck
  rcases hcheck with (hcast | hrequire) | hcheck
  · split at hcast <;> simp at hcast
  · split at hrequire <;> simp at hrequire
  · obtain ⟨⟨key, property⟩, hproperty, heq⟩ := List.mem_filterMap.mp hcheck
    simp only at heq
    split at heq
    · simp at heq
    · rename_i hne
      obtain ⟨rfl, rfl⟩ := ValidationStep.check.inj (Option.some.inj heq)
      exact ⟨property, hproperty, rfl, hne⟩

end Lines

/-- The validation of a record says what its schema says: what is cast, what is required, and which
bounds are checked, each side being an integer of the schema. So no check is without a side, and no
line that checks a bound is without an option for it. -/
theorem validation_states_schema (nsid : String) (node : Json) :
    (validation (Field.ofNode nsid node)).1 = statedSteps node ∧
    (∀ name : String, isListed node name = true ↔
      ∃ items, node.get? "required" = some (.array items) ∧ .string name ∈ items) ∧
    (∀ (property : Json) (key : String) (n : Int), statedSide? property key = some n ↔
      property.get? key = some (.number (.integer n)) ∧
        Int64.minValue.toInt ≤ n ∧ n ≤ Int64.maxValue.toInt) ∧
    ∀ (name : String) (checks : List BoundCheck),
      ValidationStep.check name checks ∈ (validation (Field.ofNode nsid node)).1 →
        checks ≠ [] ∧ (∀ c ∈ checks, c.min.isSome ∨ c.max.isSome) ∧
        ∀ line ∈ (ValidationStep.check name checks).lines,
          ∃ c ∈ checks, IsBoundLine name c line := by
  refine ⟨validation_ofNode nsid node, fun _ => isListed_iff,
    fun _ _ _ => statedSide?_eq_some_iff, ?_⟩
  intro name checks hcheck
  rw [validation_ofNode] at hcheck
  obtain ⟨property, -, rfl, hne⟩ := exists_of_check_mem hcheck
  refine ⟨hne, fun _ => isSome_of_mem_statedChecks, ?_⟩
  intro line hline
  obtain ⟨c, hc, rfl⟩ := List.mem_map.mp hline
  exact ⟨c, hc, isBoundLine_line name (isSome_of_mem_statedChecks hc)⟩

/-- A maximum out of range, a link with a length, a null in a pair, and required names that are no
properties. -/
def boundedRecord : Json :=
  .object [
    ("properties", .object [
      ("count", .object [
        ("maximum", Json.ofInt 9223372036854775808), ("minimum", Json.ofInt 1),
        ("type", .string "integer")]),
      ("link", .object [("maxLength", Json.ofInt 3), ("type", .string "cid-link")]),
      ("text", .object [
        ("maxGraphemes", Json.ofInt 30), ("minLength", .null), ("type", .string "string")])]),
    ("required", .array [.string "text", Json.ofInt 3, .string "title"]),
    ("type", .string "object")]

theorem validation_states_schema_boundedRecord :
    (validation (Field.ofNode "com.example.bounded" boundedRecord)).1 =
        [.cast ["count", "link", "text"], .require ["text"],
          .check "count" [⟨.range, some 1, none⟩],
          .check "text" [⟨.graphemeLength, none, some 30⟩]] ∧
      ∀ line ∈ (ValidationStep.check "text" [⟨.graphemeLength, none, some 30⟩]).lines,
        ∃ c ∈ [⟨.graphemeLength, none, some 30⟩], IsBoundLine "text" c line := by
  have hsteps : (validation (Field.ofNode "com.example.bounded" boundedRecord)).1 =
      [.cast ["count", "link", "text"], .require ["text"], .check "count" [⟨.range, some 1, none⟩],
        .check "text" [⟨.graphemeLength, none, some 30⟩]] := by
    decide +kernel
  have hmem : ValidationStep.check "text" [⟨.graphemeLength, none, some 30⟩] ∈
      (validation (Field.ofNode "com.example.bounded" boundedRecord)).1 := by
    rw [hsteps]
    simp
  exact ⟨hsteps, ((validation_states_schema _ boundedRecord).2.2.2 _ _ hmem).2.2⟩

end Lexgen.Emit
