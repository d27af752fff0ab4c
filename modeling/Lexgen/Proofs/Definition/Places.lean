import Lexgen.Lexicon.Basic

namespace Lexgen

namespace Definition

def struct? : Definition → Option StructDef
  | .struct d => some d
  | _ => none

def record? : Definition → Option RecordDef
  | .record d => some d
  | _ => none

def call? : Definition → Option (CallKind × CallDef)
  | .call kind d => some (kind, d)
  | _ => none

end Definition

namespace Definitions

open Definition

/-- The place that a definition goes to is taken. -/
def IsTaken (ds : Definitions) (d : Definition) : Prop :=
  (d.record?.isSome ∧ ds.record.isSome) ∨ (d.call?.isSome ∧ ds.call.isSome)

/-- One of the two places for calls is empty. -/
def IsExclusive (ds : Definitions) : Prop := ds.query = none ∨ ds.procedure = none

section Offer

variable {ds : Definitions} {d : Definition}

theorem call_eq_none_iff : ds.call = none ↔ ds.query = none ∧ ds.procedure = none := by
  rw [call]
  cases ds.query <;> cases ds.procedure <;> simp

theorem IsExclusive.call_eq_some_iff (hexclusive : ds.IsExclusive) {d : CallDef} :
    (ds.call = some (.query, d) ↔ ds.query = some d) ∧
      (ds.call = some (.procedure, d) ↔ ds.procedure = some d) := by
  rw [call]
  rcases hexclusive with hnone | hnone <;> rw [hnone]
  · cases ds.procedure <;> simp
  · cases ds.query <;> simp

theorem offer_of_isTaken (htaken : ds.IsTaken d) : ds.offer d = (ds, some d) := by
  cases d with
  | struct d => simp [IsTaken, record?, call?] at htaken
  | record d =>
      have hrecord : ds.record.isSome := by simpa [IsTaken, record?, call?] using htaken
      rw [offer, if_neg (by simpa using Option.isSome_iff_ne_none.mp hrecord)]
  | call kind d =>
      have hcall : ds.call.isSome := by simpa [IsTaken, record?, call?] using htaken
      cases kind <;> rw [offer, if_neg (by simpa using Option.isSome_iff_ne_none.mp hcall)]

theorem offer_snd_of_not_isTaken (hfree : ¬ ds.IsTaken d) : (ds.offer d).2 = none := by
  cases d with
  | struct d => rfl
  | record d =>
      have hrecord : ds.record = none := by simpa [IsTaken, record?, call?] using hfree
      rw [offer, if_pos (by simp [hrecord])]
  | call kind d =>
      have hcall : ds.call = none := by simpa [IsTaken, record?, call?] using hfree
      cases kind <;> rw [offer, if_pos (by simp [hcall])]

theorem offer_snd_eq_some_iff {rejected : Definition} :
    (ds.offer d).2 = some rejected ↔ rejected = d ∧ ds.IsTaken d := by
  by_cases htaken : ds.IsTaken d
  · rw [offer_of_isTaken htaken, Option.some.injEq, eq_comm, and_iff_left htaken]
  · rw [offer_snd_of_not_isTaken htaken]
    exact iff_of_false nofun fun h => htaken h.2

variable (ds d)

theorem structs_offer : (ds.offer d).1.structs = ds.structs ++ d.struct?.toList := by
  rcases d with d | d | ⟨_ | _, d⟩ <;> rw [offer]
  case struct => rfl
  all_goals split <;> exact (List.append_nil _).symm

theorem record_offer : (ds.offer d).1.record = ds.record.or d.record? := by
  rcases d with d | d | ⟨_ | _, d⟩ <;> rw [offer]
  case struct => simp [record?]
  case record => cases hrecord : ds.record <;> simp [record?, hrecord]
  all_goals split <;> simp [record?]

theorem call_offer : (ds.offer d).1.call = ds.call.or d.call? := by
  rcases d with d | d | ⟨_ | _, d⟩ <;> rw [offer]
  · simp [call?, call]
  · split <;> simp [call?, call]
  all_goals
    cases hcall : ds.call with
    | some earlier => simp [hcall]
    | none =>
        obtain ⟨hquery, hprocedure⟩ := call_eq_none_iff.mp hcall
        simp [call?, call, hquery, hprocedure]

variable {ds}

theorem IsExclusive.offer (hexclusive : ds.IsExclusive) : (ds.offer d).1.IsExclusive := by
  rcases d with d | d | ⟨_ | _, d⟩ <;> rw [Definitions.offer]
  · exact hexclusive
  · split <;> exact hexclusive
  all_goals
    cases hcall : ds.call with
    | some earlier => exact hexclusive
    | none =>
        obtain ⟨hquery, hprocedure⟩ := call_eq_none_iff.mp hcall
        simp [IsExclusive, hquery, hprocedure]

theorem size_offer : (ds.offer d).1.size = ds.size + (ds.offer d).2.isNone.toNat := by
  by_cases htaken : ds.IsTaken d
  · rw [offer_of_isTaken htaken]
    rfl
  · rw [size, structs_offer, record_offer, call_offer, offer_snd_of_not_isTaken htaken, size]
    cases d with
    | struct d => simp [struct?, record?, call?]; omega
    | record d =>
        have hrecord : ds.record = none := by simpa [IsTaken, record?, call?] using htaken
        simp [struct?, record?, call?, hrecord]; omega
    | call kind d =>
        have hcall : ds.call = none := by simpa [IsTaken, record?, call?] using htaken
        simp [struct?, record?, call?, hcall]

end Offer

end Definitions

namespace Lexicon

def warningOf (nsid : String) (d : Definition) : Event := .duplicateDefinition nsid d.key d.kind

theorem addEntry_of_ok {nsid key : String} {node : Json} {d : Definition} (ds : Definitions)
    (hnode : Definition.ofNode nsid key node = .ok d) :
    addEntry nsid ds key node = ((ds.offer d).1, (ds.offer d).2.toList.map (warningOf nsid)) := by
  rw [addEntry, hnode]
  dsimp only
  rcases ds.offer d with ⟨ds', _ | rejected⟩ <;> rfl

theorem addEntry_of_error {nsid key : String} {node : Json} {kind : Option Schema.Kind}
    (ds : Definitions) (hnode : Definition.ofNode nsid key node = .error kind) :
    addEntry nsid ds key node = (ds, [.noCode nsid key kind]) := by
  rw [addEntry, hnode]

end Lexicon

end Lexgen
