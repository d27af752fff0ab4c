import Lexgen.Definition.Json
import Lexgen.Proofs.Definition.Places
import Lexgen.Proofs.Document.OrderedEntries

namespace Lexgen

namespace Definition

/-- A record after a record, or a call after a call. -/
def IsLate (earlier : List Definition) (d : Definition) : Prop :=
  (d.record?.isSome ∧ ∃ e ∈ earlier, e.record?.isSome) ∨
    (d.call?.isSome ∧ ∃ e ∈ earlier, e.call?.isSome)

end Definition

namespace Definitions

open Definition

/-- Offers definitions in turn, with the answers in the same order. -/
def offerAll (ds : Definitions) : List Definition → Definitions × List (Option Definition)
  | [] => (ds, [])
  | d :: rest =>
    (((ds.offer d).1.offerAll rest).1, (ds.offer d).2 :: ((ds.offer d).1.offerAll rest).2)

/-- What is held after the definitions `offered`, by their order alone. -/
structure HoldsFirst (offered : List Definition) (ds : Definitions) : Prop where
  structs : ds.structs = offered.filterMap struct?
  record : ds.record = offered.findSome? record?
  call : ds.call = offered.findSome? call?

section Runs

variable {offered : List Definition} {ds : Definitions}

theorem holdsFirst_empty : HoldsFirst [] {} := ⟨rfl, rfl, rfl⟩

theorem HoldsFirst.offer (hfirst : HoldsFirst offered ds) (d : Definition) :
    HoldsFirst (offered ++ [d]) (ds.offer d).1 := by
  constructor
  · rw [structs_offer, hfirst.structs, List.filterMap_append]
    cases hstruct : d.struct? <;> simp [hstruct]
  · rw [record_offer, hfirst.record, List.findSome?_append]
    cases hrecord : d.record? <;> simp [hrecord]
  · rw [call_offer, hfirst.call, List.findSome?_append]
    cases hcall : d.call? <;> simp [hcall]

theorem HoldsFirst.offerAll (hfirst : HoldsFirst offered ds) (later : List Definition) :
    HoldsFirst (offered ++ later) (ds.offerAll later).1 := by
  induction later generalizing offered ds with
  | nil =>
      rw [List.append_nil]
      exact hfirst
  | cons d later ih =>
      rw [List.append_cons]
      exact ih (hfirst.offer d)

theorem HoldsFirst.isTaken_iff (hfirst : HoldsFirst offered ds) {d : Definition} :
    ds.IsTaken d ↔ IsLate offered d := by
  rw [IsTaken, IsLate, hfirst.record, hfirst.call, List.findSome?_isSome_iff,
    List.findSome?_isSome_iff]

theorem isExclusive_empty : IsExclusive {} := .inl rfl

theorem IsExclusive.offerAll (hexclusive : ds.IsExclusive) (offered : List Definition) :
    (ds.offerAll offered).1.IsExclusive := by
  induction offered generalizing ds with
  | nil => exact hexclusive
  | cons d offered ih => exact ih (hexclusive.offer d)

theorem insert_eq_error_iff {d rejected : Definition} :
    ds.insert d = .error rejected ↔ (ds.offer d).2 = some rejected := by
  rw [insert]
  rcases ds.offer d with ⟨ds', _ | rejected'⟩ <;> simp

theorem size_offerAll (ds : Definitions) (offered : List Definition) :
    (ds.offerAll offered).1.size = ds.size + (ds.offerAll offered).2.countP Option.isNone := by
  induction offered generalizing ds with
  | nil => rfl
  | cons d offered ih =>
      rw [offerAll, ih, size_offer, List.countP_cons]
      cases (ds.offer d).2 with
      | none => simp; omega
      | some rejected => simp

end Runs

end Definitions

namespace Lexicon

open Definitions

def compiled (nsid : String) (entries : List (String × Json)) : List Definition :=
  entries.filterMap fun (key, node) => (Definition.ofNode nsid key node).toOption

def warnings (events : List Event) : List Event := events.filter (·.level = .warning)

theorem warnings_map_warningOf (nsid : String) (rejected : List Definition) :
    warnings (rejected.map (warningOf nsid)) = rejected.map (warningOf nsid) := by
  rw [warnings, List.filter_eq_self]
  intro event hevent
  obtain ⟨d, -, rfl⟩ := List.mem_map.mp hevent
  rfl

theorem addEntries_eq_offerAll (nsid : String) (ds : Definitions)
    (entries : List (String × Json)) :
    (addEntries nsid ds entries).1 = (ds.offerAll (compiled nsid entries)).1 ∧
      warnings (addEntries nsid ds entries).2 =
        ((ds.offerAll (compiled nsid entries)).2.filterMap id).map (warningOf nsid) := by
  induction entries generalizing ds with
  | nil => exact ⟨rfl, rfl⟩
  | cons entry entries ih =>
      obtain ⟨key, node⟩ := entry
      cases hnode : Definition.ofNode nsid key node with
      | error kind =>
          have hcompiled : compiled nsid ((key, node) :: entries) = compiled nsid entries := by
            simp [compiled, hnode, Except.toOption]
          rw [addEntries, addEntry_of_error ds hnode, hcompiled]
          exact ih ds
      | ok d =>
          have hcompiled : compiled nsid ((key, node) :: entries) = d :: compiled nsid entries := by
            simp [compiled, hnode, Except.toOption]
          rw [addEntries, addEntry_of_ok ds hnode, hcompiled, offerAll]
          refine ⟨(ih _).1, ?_⟩
          rw [warnings, List.filter_append, ← warnings, ← warnings, warnings_map_warningOf,
            (ih _).2]
          cases (ds.offer d).2 <;> rfl

end Lexicon

section FirstWins

open Definitions

/-- The first definition wins, in every run of insertions from nothing. All structs are held, the
first record and the first call; the call is in the place of its kind and the other place is empty.
A definition is refused exactly when it is a record after a record or a call after a call; it is
handed back as it is, and nothing changes. A document is compiled by such a run over its entries,
which are in ascending order of their keys, and warns once of each that is refused. -/
theorem first_definition_wins :
    (∀ offered ds answers, offerAll {} offered = (ds, answers) →
      HoldsFirst offered ds ∧
      (∀ d, ds.query = some d ↔ offered.findSome? Definition.call? = some (.query, d)) ∧
      (∀ d, ds.procedure = some d ↔ offered.findSome? Definition.call? = some (.procedure, d)) ∧
      ¬ (ds.query.isSome ∧ ds.procedure.isSome) ∧
      (∀ d rejected, (ds.offer d).2 = some rejected ↔
        rejected = d ∧ Definition.IsLate offered d) ∧
      (∀ d, Definition.IsLate offered d → (ds.offer d).1 = ds) ∧
      (∀ d rejected, ds.insert d = .error rejected ↔
        rejected = d ∧ Definition.IsLate offered d) ∧
      ds.size = answers.countP Option.isNone) ∧
    (∀ doc ds answers, offerAll {} (Lexicon.compiled doc.id doc.defs) = (ds, answers) →
      (Lexicon.ofDocument doc).1.definitions = ds ∧
      Lexicon.warnings (Lexicon.ofDocument doc).2 =
        (answers.filterMap id).map (Lexicon.warningOf doc.id)) ∧
    (∀ bytes doc, Document.parse bytes = .ok doc → Ascending doc.defs) ∧
    ∀ value doc, (∀ inner, .object inner ∈ value.children → Ascending inner) →
      Document.ofJson value = .ok doc → Ascending doc.defs := by
  refine ⟨?_, ?_, fun _ _ => Document.ascending_of_parse, fun _ _ => Document.ascending_of_ofJson⟩
  · intro offered ds answers hrun
    obtain ⟨rfl, rfl⟩ := Prod.mk.inj hrun
    have hfirst : HoldsFirst offered (offerAll {} offered).1 := holdsFirst_empty.offerAll offered
    have hexclusive : (offerAll {} offered).1.IsExclusive := isExclusive_empty.offerAll offered
    refine ⟨hfirst, fun d => ?_, fun d => ?_, ?_, fun d rejected => ?_, fun d hlate => ?_,
      fun d rejected => ?_, ?_⟩
    · rw [← hexclusive.call_eq_some_iff.1, hfirst.call]
    · rw [← hexclusive.call_eq_some_iff.2, hfirst.call]
    · rintro ⟨hquery, hprocedure⟩
      rcases hexclusive with hnone | hnone
      · simp [hnone] at hquery
      · simp [hnone] at hprocedure
    · rw [offer_snd_eq_some_iff, hfirst.isTaken_iff]
    · rw [offer_of_isTaken (hfirst.isTaken_iff.mpr hlate)]
    · rw [insert_eq_error_iff, offer_snd_eq_some_iff, hfirst.isTaken_iff]
    · rw [size_offerAll]
      exact Nat.zero_add _
  · intro doc ds answers hrun
    obtain ⟨rfl, rfl⟩ := Prod.mk.inj hrun
    exact Lexicon.addEntries_eq_offerAll doc.id {} doc.defs

/-- A document whose text lists a procedure before a query; by their keys the query comes first. -/
def mixedText : String :=
  "\x7b\"id\":\"com.example.both\",\"defs\":\x7b" ++
    ",".intercalate ([("main", "procedure"), ("zzz", "record"), ("item", "object"),
      ("alt", "query"), ("other", "record"), ("form", "object")].map fun (key, kind) =>
        "\"" ++ key ++ "\":\x7b\"type\":\"" ++ kind ++ "\"\x7d") ++ "\x7d\x7d"

theorem first_definition_wins_mixed :
    ∃ doc, Document.parse (Text.encode mixedText) = .ok doc ∧ Ascending doc.defs ∧
      HoldsFirst (Lexicon.compiled doc.id doc.defs) (Lexicon.ofDocument doc).1.definitions ∧
      (Lexicon.ofDocument doc).1.definitions.structs.map (·.key) = ["form", "item"] ∧
      (Lexicon.ofDocument doc).1.definitions.record.map (·.key) = some "other" ∧
      (Lexicon.ofDocument doc).1.definitions.query.map (·.key) = some "alt" ∧
      Lexicon.warnings (Lexicon.ofDocument doc).2 =
        [.duplicateDefinition "com.example.both" "main" .procedure,
          .duplicateDefinition "com.example.both" "zzz" .record] := by
  have hevaluated : (Document.parse (Text.encode mixedText)).toOption.map (fun doc =>
      ((Lexicon.ofDocument doc).1.definitions.structs.map (·.key),
        (Lexicon.ofDocument doc).1.definitions.record.map (·.key),
        (Lexicon.ofDocument doc).1.definitions.query.map (·.key),
        Lexicon.warnings (Lexicon.ofDocument doc).2)) =
      some (["form", "item"], some "other", some "alt",
        [.duplicateDefinition "com.example.both" "main" .procedure,
          .duplicateDefinition "com.example.both" "zzz" .record]) := by
    decide +kernel
  cases hparse : Document.parse (Text.encode mixedText) with
  | error problem =>
      rw [hparse] at hevaluated
      exact absurd hevaluated nofun
  | ok doc =>
      rw [hparse] at hevaluated
      obtain ⟨hstructs, hothers⟩ := Prod.mk.inj (Option.some.inj hevaluated)
      obtain ⟨hrecord, hothers⟩ := Prod.mk.inj hothers
      obtain ⟨hquery, hwarnings⟩ := Prod.mk.inj hothers
      obtain ⟨hruns, hdocuments, hread, -⟩ := first_definition_wins
      rcases hrun : offerAll {} (Lexicon.compiled doc.id doc.defs) with ⟨ds, answers⟩
      refine ⟨doc, rfl, hread _ doc hparse, ?_, hstructs, hrecord, hquery, hwarnings⟩
      rw [(hdocuments doc ds answers hrun).1]
      exact (hruns _ ds answers hrun).1

end FirstWins

end Lexgen
