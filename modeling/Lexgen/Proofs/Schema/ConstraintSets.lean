import Mathlib.Data.List.Nodup
import Lexgen.Proofs.OrderedMembers
import Lexgen.Schema.Constraint

namespace Lexgen.Schema

variable {node : Json} {kind : Kind}

namespace Kind

theorem ofTag?_tag (kind : Kind) : ofTag? kind.tag = some kind := by
  cases kind <;> rfl

theorem ofTag?_eq_some_iff {tag : String} : ofTag? tag = some kind ↔ kind.tag = tag := by
  constructor
  · intro hfind
    rw [ofTag?] at hfind
    simpa using List.find?_some hfind
  · rintro rfl
    exact ofTag?_tag kind

theorem of?_eq_some_iff : of? node = some kind ↔ node.getString? "type" = some kind.tag := by
  rw [of?, Option.bind_eq_some_iff]
  simp only [ofTag?_eq_some_iff]
  exact ⟨fun ⟨_, htype, htag⟩ => htag ▸ htype, fun htype => ⟨_, htype, rfl⟩⟩

end Kind

namespace Constraint

theorem mem_all (c : Constraint) : c ∈ all := by
  cases c <;> decide

theorem int64?_value? (node : Json) (c : Constraint) :
    (c.value? node).bind Json.int64? = (node.get? c.key).bind Json.int64? := by
  rw [value?]
  split
  · rename_i hget
    rw [hget]
  · rename_i hget
    rw [hget]
    rfl
  · rename_i hget
    rw [hget]

theorem value?_eq_some_iff {c : Constraint} {value : Json} :
    c.value? node = some value ↔ node.get? c.key = some value ∧ value ≠ .null := by
  rw [value?]
  cases node.get? c.key with
  | none => simp
  | some found => cases found <;> simp +contextual [eq_comm]

theorem label_eq_key (c : Constraint) : c.label = c.key := by
  cases c <;> rfl

theorem key_injective {c c' : Constraint} (hkey : c.key = c'.key) : c = c' := by
  have hnodup : (all.map key).Nodup := by decide
  exact List.inj_on_of_nodup_map hnodup c.mem_all c'.mem_all hkey

theorem key_ne_type (c : Constraint) : c.key ≠ "type" := by
  cases c <;> decide

end Constraint

namespace Constraints

theorem find?_filterMap_key (value? : Constraint → Option Json) (c : Constraint)
    (keys : List Constraint) :
    ((keys.filterMap fun key => (value? key).map (key, ·)).find? (·.1 = c)).map Prod.snd =
      if c ∈ keys then value? c else none := by
  induction keys with
  | nil => rfl
  | cons key keys ih =>
      rw [List.filterMap_cons]
      by_cases hkey : key = c
      · subst hkey
        cases hvalue : value? key with
        | none => simp_all
        | some value => simp
      · cases hvalue : value? key with
        | none => simp_all [Ne.symm hkey]
        | some value => simp_all [Ne.symm hkey]

theorem entries_ofNode (hkind : Kind.of? node = some kind) :
    (ofNode node).entries = Constraint.all.filterMap fun c =>
      (if c ∈ Constraint.applicable kind then c.value? node else none).map (c, ·) := by
  simp only [ofNode, hkind]
  congr 1
  funext c
  split <;> rfl

theorem get?_ofNode (hkind : Kind.of? node = some kind) (c : Constraint) :
    (ofNode node).get? c = if c ∈ Constraint.applicable kind then c.value? node else none := by
  rw [get?, entries_ofNode hkind, find?_filterMap_key
    (fun c => if c ∈ Constraint.applicable kind then c.value? node else none), if_pos c.mem_all]

theorem bound?_ofNode (hkind : Kind.of? node = some kind) {c : Constraint}
    (hc : c ∈ Constraint.applicable kind) :
    (ofNode node).bound? c = (node.get? c.key).bind Json.int64? := by
  rw [bound?, get?_ofNode hkind, if_pos hc, Constraint.int64?_value?]

theorem get?_ofNode_of_none (hkind : Kind.of? node = none) (c : Constraint) :
    (ofNode node).get? c = none := by
  simp only [ofNode, hkind]
  rfl

theorem get?_ofNode_eq_some_iff {c : Constraint} {value : Json} :
    (ofNode node).get? c = some value ↔
      ∃ kind : Kind, node.getString? "type" = some kind.tag ∧ c ∈ Constraint.applicable kind ∧
        node.get? c.key = some value ∧ value ≠ .null := by
  simp only [← Kind.of?_eq_some_iff, ← Constraint.value?_eq_some_iff]
  cases hkind : Kind.of? node with
  | none => simp [get?_ofNode_of_none hkind]
  | some kind => simp [get?_ofNode hkind, Option.ite_none_right_eq_some]

/-- A set of a node holds what can be looked up in it, in the order of the constraints. -/
theorem entries_ofNode_eq_filterMap (node : Json) :
    (ofNode node).entries =
      Constraint.all.filterMap fun c => ((ofNode node).get? c).map (c, ·) := by
  cases hkind : Kind.of? node with
  | none => simp [ofNode, hkind, get?]
  | some kind => simp only [get?_ofNode hkind, entries_ofNode hkind]

theorem ofNode_congr {node' : Json}
    (hget : ∀ c, (ofNode node).get? c = (ofNode node').get? c) : ofNode node = ofNode node' := by
  have hentries : (ofNode node).entries = (ofNode node').entries := by
    rw [entries_ofNode_eq_filterMap node, entries_ofNode_eq_filterMap node']
    simp only [hget]
  exact congrArg mk hentries

theorem get?_key_toJson (cs : Constraints) (c : Constraint) : cs.toJson.get? c.key = cs.get? c := by
  obtain ⟨entries⟩ := cs
  change findMember? c.key (entries.map fun entry => (entry.1.label, entry.2)) =
    (entries.find? (·.1 = c)).map Prod.snd
  induction entries with
  | nil => rfl
  | cons entry entries ih =>
      rw [List.map_cons, findMember?, Constraint.label_eq_key]
      by_cases hentry : entry.1 = c
      · simp [hentry]
      · have hkey : entry.1.key ≠ c.key := mt Constraint.key_injective hentry
        rw [if_neg hkey, ih, List.find?_cons_of_neg (by simpa using hentry)]

theorem get?_type_toJson (cs : Constraints) : cs.toJson.get? "type" = none := by
  rw [Option.eq_none_iff_forall_ne_some]
  intro value hfind
  obtain ⟨entry, -, hentry⟩ := List.mem_map.mp (mem_of_findMember? hfind)
  rw [Prod.mk.injEq, Constraint.label_eq_key] at hentry
  exact entry.1.key_ne_type hentry.1

/-- The set as an object that also has the type of the node. -/
def typedJson (cs : Constraints) (node : Json) : Json :=
  match node.get? "type", cs.toJson with
  | some type, .object members => .object (setMember "type" type members)
  | _, shown => shown

theorem get?_typedJson (cs : Constraints) (node : Json) (key : String) :
    (cs.typedJson node).get? key =
      if key = "type" then node.get? "type" else cs.toJson.get? key := by
  rw [typedJson]
  cases htype : node.get? "type" with
  | none =>
      split_ifs with hkey
      · rw [hkey, get?_type_toJson]
      · rfl
  | some type => exact findMember?_setMember

/-- A set is exact and stable. It has a value for a constraint exactly if the node is of a kind to
which the constraint applies and has that value, which is not null, in the member for the
constraint. Shown as an object it has the same keys and values, and read again with the type of the
node it is the same set. -/
theorem ofNode_exact_and_stable (node : Json) :
    (∀ c value, (ofNode node).get? c = some value ↔
      ∃ kind : Kind, node.getString? "type" = some kind.tag ∧ c ∈ Constraint.applicable kind ∧
        node.get? c.key = some value ∧ value ≠ .null) ∧
    (∀ c, (ofNode node).toJson.get? c.key = (ofNode node).get? c) ∧
    ofNode ((ofNode node).typedJson node) = ofNode node := by
  refine ⟨fun c value => get?_ofNode_eq_some_iff, get?_key_toJson _, ?_⟩
  -- The object lacks the other members of the node, so only look-ups can be compared.
  refine ofNode_congr fun c => Option.ext fun value => ?_
  have htype : ((ofNode node).typedJson node).getString? "type" = node.getString? "type" := by
    rw [Json.getString?, get?_typedJson, if_pos rfl]
    rfl
  rw [get?_ofNode_eq_some_iff, htype, get?_typedJson, if_neg c.key_ne_type, get?_key_toJson]
  constructor
  · rintro ⟨_, _, _, hget, _⟩
    exact hget
  · intro hget
    obtain ⟨kind, hkind, happlies, -, hnull⟩ := get?_ofNode_eq_some_iff.mp hget
    exact ⟨kind, hkind, happlies, hget, hnull⟩

end Constraints

end Lexgen.Schema
