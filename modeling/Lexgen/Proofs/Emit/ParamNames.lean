import Mathlib.Data.List.Nodup
import Lexgen.Emit.Param
import Lexgen.Proofs.Emit.StringReading
import Lexgen.Proofs.Text.SnakeCase

/-!
The names of the parameters of a call. A name in snake case is given out only while it is free, but
a field that keeps its own name takes it whether it is free or not. So two parameters share a name
exactly when a field that keeps its name is called what snake case made of an earlier one.
-/

namespace Lexgen.Emit.Param

open Lexgen.Schema
open Lexgen.Text

/-- Whether the events tell of a field that keeps its own name. -/
def Keeps (events : List Event) (name : String) : Prop :=
  ∃ clash, Event.keptWireName name clash ∈ events

section NamesAvoiding

variable {taken : List String} {f : Field} {fields : List Field}

theorem namesAvoiding_of_isSnake (hsnake : isSnake f = true) :
    namesAvoiding taken (f :: fields) =
      (f.name :: (namesAvoiding taken fields).1, (namesAvoiding taken fields).2) := by
  have hname : snakeCase f.name = f.name := by simpa [isSnake] using hsnake
  rw [namesAvoiding, if_pos hsnake, hname]

theorem namesAvoiding_of_mem (hsnake : ¬ isSnake f = true) (hmem : snakeCase f.name ∈ taken) :
    namesAvoiding taken (f :: fields) =
      (f.name :: (namesAvoiding (f.name :: taken) fields).1,
        .keptWireName f.name (snakeCase f.name) ::
          (namesAvoiding (f.name :: taken) fields).2) := by
  rw [namesAvoiding, if_neg hsnake, if_pos (by simpa using hmem)]

theorem namesAvoiding_of_not_mem (hsnake : ¬ isSnake f = true) (hmem : snakeCase f.name ∉ taken) :
    namesAvoiding taken (f :: fields) =
      (snakeCase f.name :: (namesAvoiding (snakeCase f.name :: taken) fields).1,
        (namesAvoiding (snakeCase f.name :: taken) fields).2) := by
  rw [namesAvoiding, if_neg hsnake, if_neg (by simpa using hmem)]

theorem length_namesAvoiding (taken : List String) (fields : List Field) :
    (namesAvoiding taken fields).1.length = fields.length := by
  fun_induction namesAvoiding taken fields <;> simp_all

theorem exists_of_keeps {name : String} (hkeeps : Keeps (namesAvoiding taken fields).2 name) :
    ∃ f ∈ fields, f.name = name ∧ ¬ isSnake f = true := by
  induction fields generalizing taken with
  | nil =>
      obtain ⟨clash, hevent⟩ := hkeeps
      exact absurd hevent List.not_mem_nil
  | cons f fields ih =>
      have hrest : ∀ taken', Keeps (namesAvoiding taken' fields).2 name →
          ∃ g ∈ f :: fields, g.name = name ∧ ¬ isSnake g = true := fun taken' h =>
        let ⟨g, hg, hname⟩ := ih h
        ⟨g, List.mem_cons_of_mem f hg, hname⟩
      by_cases hsnake : isSnake f = true
      · rw [namesAvoiding_of_isSnake hsnake] at hkeeps
        exact hrest _ hkeeps
      · by_cases hmem : snakeCase f.name ∈ taken
        · rw [namesAvoiding_of_mem hsnake hmem] at hkeeps
          obtain ⟨clash, hevent⟩ := hkeeps
          rcases List.mem_cons.mp hevent with heq | hevent
          · exact ⟨f, List.mem_cons_self, (Event.keptWireName.inj heq).1.symm, hsnake⟩
          · exact hrest _ ⟨clash, hevent⟩
        · rw [namesAvoiding_of_not_mem hsnake hmem] at hkeeps
          exact hrest _ hkeeps

theorem not_keeps_of_forall_ne (taken : List String) (hf : ∀ g ∈ fields, g.name ≠ f.name) :
    ¬ Keeps (namesAvoiding taken fields).2 f.name := by
  intro hkeeps
  obtain ⟨g, hg, hname, -⟩ := exists_of_keeps hkeeps
  exact hf g hg hname

/-- No two of the names are equal, and of the names that were taken only those come again that
belong to fields in snake case. -/
def Distinct (taken : List String) (fields : List Field) : Prop :=
  (namesAvoiding taken fields).1.Nodup ∧
    ∀ name ∈ (namesAvoiding taken fields).1, name ∈ taken →
      ∃ f ∈ fields, isSnake f = true ∧ f.name = name

/-- No field keeps a name that is taken or that snake case makes of an earlier field. -/
def Unmet (taken : List String) (fields : List Field) : Prop :=
  (fields.Pairwise fun f g => snakeCase f.name = g.name →
      ¬ Keeps (namesAvoiding taken fields).2 g.name) ∧
    ∀ g ∈ fields, g.name ∈ taken → ¬ Keeps (namesAvoiding taken fields).2 g.name

theorem distinct_cons_of_isSnake (hsnake : isSnake f = true)
    (hf : ∀ g ∈ fields, g.name ≠ f.name) (htaken : f.name ∈ taken) :
    Distinct taken (f :: fields) ↔ Distinct taken fields := by
  rw [Distinct, Distinct, namesAvoiding_of_isSnake hsnake]
  grind

theorem unmet_cons_of_isSnake (hsnake : isSnake f = true) (hf : ∀ g ∈ fields, g.name ≠ f.name) :
    Unmet taken (f :: fields) ↔ Unmet taken fields := by
  have hname : snakeCase f.name = f.name := by simpa [isSnake] using hsnake
  have hkeeps := not_keeps_of_forall_ne taken hf
  rw [Unmet, Unmet, namesAvoiding_of_isSnake hsnake, List.pairwise_cons, hname]
  grind

section Step

variable (hsnake : ¬ isSnake f = true)

include hsnake

theorem distinct_cons_of_not_mem (hmem : snakeCase f.name ∉ taken)
    (htaken : ∀ g ∈ fields, isSnake g = true → g.name ∈ taken) :
    Distinct taken (f :: fields) ↔ Distinct (snakeCase f.name :: taken) fields := by
  rw [Distinct, Distinct, namesAvoiding_of_not_mem hsnake hmem]
  grind

variable (hf : ∀ g ∈ fields, g.name ≠ f.name)

include hf

theorem distinct_cons_of_mem (hmem : snakeCase f.name ∈ taken) :
    Distinct taken (f :: fields) ↔ f.name ∉ taken ∧ Distinct (f.name :: taken) fields := by
  rw [Distinct, Distinct, namesAvoiding_of_mem hsnake hmem]
  grind

theorem unmet_cons_of_not_mem (hmem : snakeCase f.name ∉ taken) :
    Unmet taken (f :: fields) ↔ Unmet (snakeCase f.name :: taken) fields := by
  have hkeeps := not_keeps_of_forall_ne (snakeCase f.name :: taken) hf
  rw [Unmet, Unmet, namesAvoiding_of_not_mem hsnake hmem, List.pairwise_cons]
  grind

theorem unmet_cons_of_mem (hmem : snakeCase f.name ∈ taken) :
    Unmet taken (f :: fields) ↔ f.name ∉ taken ∧ Unmet (f.name :: taken) fields := by
  rw [Unmet, Unmet, namesAvoiding_of_mem hsnake hmem, List.pairwise_cons, List.forall_mem_cons]
  generalize (namesAvoiding (f.name :: taken) fields).2 = events
  -- the new event is about `f`, and no other field has its name
  have hkeeps : Keeps (.keptWireName f.name (snakeCase f.name) :: events) f.name :=
    ⟨_, List.mem_cons_self⟩
  have hothers : ∀ g ∈ fields, Keeps (.keptWireName f.name (snakeCase f.name) :: events) g.name ↔
      Keeps events g.name := by
    intro g hg
    simp [Keeps, hf g hg]
  have hpairwise : (fields.Pairwise fun g g' => snakeCase g.name = g'.name →
        ¬ Keeps (.keptWireName f.name (snakeCase f.name) :: events) g'.name) ↔
      fields.Pairwise fun g g' => snakeCase g.name = g'.name → ¬ Keeps events g'.name :=
    List.Pairwise.iff_of_mem fun _ hg' => by rw [hothers _ hg']
  rw [hpairwise]
  grind

end Step

theorem distinct_iff_unmet (hnames : (fields.map (·.name)).Nodup)
    (htaken : ∀ f ∈ fields, isSnake f = true → f.name ∈ taken) :
    Distinct taken fields ↔ Unmet taken fields := by
  induction fields generalizing taken with
  | nil => simp [Distinct, Unmet, namesAvoiding]
  | cons f fields ih =>
      rw [List.map_cons, List.nodup_cons] at hnames
      rw [List.forall_mem_cons] at htaken
      have hf : ∀ g ∈ fields, g.name ≠ f.name := fun g hg heq =>
        hnames.1 (List.mem_map.mpr ⟨g, hg, heq⟩)
      have hlater : ∀ name, ∀ g ∈ fields, isSnake g = true → g.name ∈ name :: taken :=
        fun name g hg hsnake => List.mem_cons_of_mem name (htaken.2 g hg hsnake)
      by_cases hsnake : isSnake f = true
      · rw [distinct_cons_of_isSnake hsnake hf (htaken.1 hsnake), unmet_cons_of_isSnake hsnake hf]
        exact ih hnames.2 htaken.2
      · by_cases hmem : snakeCase f.name ∈ taken
        · rw [distinct_cons_of_mem hsnake hf hmem, unmet_cons_of_mem hsnake hf hmem]
          exact and_congr_right fun _ => ih hnames.2 (hlater _)
        · rw [distinct_cons_of_not_mem hsnake hmem htaken.2, unmet_cons_of_not_mem hsnake hf hmem]
          exact ih hnames.2 (hlater _)

end NamesAvoiding

section OfFields

/-- The names that the parameters of fields have. -/
def namesFor (fields : List Field) : List String :=
  (namesAvoiding ((fields.filter isSnake).map (·.name)) fields).1

variable {fields : List Field}

theorem length_namesFor (fields : List Field) : (namesFor fields).length = fields.length :=
  length_namesAvoiding _ fields

section Views

variable {α : Type} {view : Param → α}

theorem map_ofFields_of_field {ofField : Field → α}
    (hview : ∀ f name, view (named f name) = ofField f) (fields : List Field) :
    (ofFields fields).1.map view = fields.map ofField :=
  calc (ofFields fields).1.map view
      = ((fields.zip (namesFor fields)).map fun p => named p.1 p.2).map view := rfl
    _ = ((fields.zip (namesFor fields)).map Prod.fst).map ofField := by
      rw [List.map_map, List.map_map]
      exact List.map_congr_left fun p _ => hview p.1 p.2
    _ = fields.map ofField := by
      rw [List.map_fst_zip (Nat.le_of_eq (length_namesFor fields).symm)]

theorem map_ofFields_of_name {ofName : String → α}
    (hview : ∀ f name, view (named f name) = ofName name) (fields : List Field) :
    (ofFields fields).1.map view = (namesFor fields).map ofName :=
  calc (ofFields fields).1.map view
      = ((fields.zip (namesFor fields)).map fun p => named p.1 p.2).map view := rfl
    _ = ((fields.zip (namesFor fields)).map Prod.snd).map ofName := by
      rw [List.map_map, List.map_map]
      exact List.map_congr_left fun p _ => hview p.1 p.2
    _ = (namesFor fields).map ofName := by
      rw [List.map_snd_zip (Nat.le_of_eq (length_namesFor fields))]

end Views

theorem nodup_namesFor_iff (hnames : (fields.map (·.name)).Nodup) :
    (namesFor fields).Nodup ↔
      fields.Pairwise fun f g =>
        snakeCase f.name = g.name → ¬ Keeps (ofFields fields).2 g.name := by
  have hsnakes : ∀ name, name ∈ (fields.filter isSnake).map (·.name) ↔
      ∃ f ∈ fields, isSnake f = true ∧ f.name = name := by
    intro name
    simp only [List.mem_map, List.mem_filter, and_assoc]
  have hiff : Distinct ((fields.filter isSnake).map (·.name)) fields ↔ Unmet _ fields :=
    distinct_iff_unmet hnames fun f hf hsnake => (hsnakes f.name).mpr ⟨f, hf, hsnake, rfl⟩
  -- a name that is taken at the start is that of a field in snake case
  have hstart : ∀ g ∈ fields, g.name ∈ (fields.filter isSnake).map (·.name) →
      ¬ Keeps (ofFields fields).2 g.name := by
    intro g hg hmem hkeeps
    obtain ⟨f, hf, hsnake, hname⟩ := (hsnakes g.name).mp hmem
    obtain ⟨f', hf', hname', hsnake'⟩ := exists_of_keeps hkeeps
    have heq : f = f' := List.inj_on_of_nodup_map hnames hf hf' (hname.trans hname'.symm)
    exact hsnake' (heq ▸ hsnake)
  constructor
  · intro hnodup
    exact (hiff.mp ⟨hnodup, fun name _ => (hsnakes name).mp⟩).1
  · intro hpairwise
    exact (hiff.mpr ⟨hpairwise, hstart⟩).1

theorem not_keeps_of_settled {f : Field} {name : String}
    (hsettled : ∀ c ∈ f.name.toList, isAlphanumeric c = true → isAscii c = true ∨ IsSettled c)
    (hname : snakeCase f.name = name) : ¬ Keeps (ofFields fields).2 name := by
  intro hkeeps
  obtain ⟨g, -, hg, hsnake⟩ := exists_of_keeps hkeeps
  have hagain : snakeCase (snakeCase f.name) = snakeCase f.name :=
    snakeCase_snakeCase fun c hc hletter =>
      (hsettled c hc hletter).elim (isSettled_of_isAscii · hletter) id
  apply hsnake
  rw [isSnake, hg, ← hname, hagain]
  exact decide_eq_true rfl

end OfFields

/-- The parameters stand for the fields one by one. Two of them have one atom, or one key, exactly
if a field keeps the name that snake case makes of an earlier field, which takes a letter whose
lower case is not settled. -/
theorem atoms_ofFields_nodup_iff (nsid : String) (node : Json)
    (hnames : ((Field.ofNode nsid node).map (·.name)).Nodup) :
    let fields := Field.ofNode nsid node
    let params := (ofFields fields).1
    params.map (·.wireName) = fields.map (·.name) ∧
      params.map (·.required) = fields.map (·.required) ∧
      ((params.map (·.atom)).Nodup ↔ fields.Pairwise fun f g => snakeCase f.name = g.name →
        ¬ Keeps (ofFields fields).2 g.name) ∧
      ((params.map (·.key)).Nodup ↔ (params.map (·.atom)).Nodup) ∧
      ((∀ f ∈ fields, ∀ c ∈ f.name.toList, isAlphanumeric c = true →
          isAscii c = true ∨ IsSettled c) →
        (params.map (·.atom)).Nodup ∧ (params.map (·.key)).Nodup ∧
          ∀ p ∈ params, ∀ q ∈ params, p.atom = q.atom → p.wireName = q.wireName) := by
  intro fields params
  have hatoms : (params.map (·.atom)).Nodup ↔ (namesFor fields).Nodup := by
    rw [map_ofFields_of_name (fun _ _ => rfl)]
    exact List.nodup_map_iff fun _ _ => atom_injective
  have hkeys : (params.map (·.key)).Nodup ↔ (namesFor fields).Nodup := by
    rw [map_ofFields_of_name (fun _ _ => rfl)]
    exact List.nodup_map_iff fun _ _ => keywordKey_injective
  have hiff := nodup_namesFor_iff hnames
  refine ⟨map_ofFields_of_field (fun _ _ => rfl) fields,
    map_ofFields_of_field (fun _ _ => rfl) fields, hatoms.trans hiff, hkeys.trans hatoms.symm, ?_⟩
  intro hsettled
  have hnodup : (namesFor fields).Nodup := hiff.mpr <| List.pairwise_of_forall_mem_list
    fun f hf g _ hname => not_keeps_of_settled (hsettled f hf) hname
  refine ⟨hatoms.mpr hnodup, hkeys.mpr hnodup, fun p hp q hq heq => ?_⟩
  rw [List.inj_on_of_nodup_map (hatoms.mpr hnodup) hp hq heq]

/-- A node with properties of the given names. -/
def nodeOf (names : List String) : Json :=
  .object [
    ("properties", .object (names.map fun name => (name, .object [("type", .string "string")]))),
    ("type", .string "params")]

theorem atoms_ofFields_nodup_of_umlauts :
    let fields := Field.ofNode "com.example.search" (nodeOf ["UserName", "user_name", "ÄußereNorm"])
    let params := (ofFields fields).1
    params.map (·.atom) = [":\"UserName\"", ":user_name", ":\"äußere_norm\""] ∧
      (params.map (·.atom)).Nodup ∧ (params.map (·.key)).Nodup := by
  intro fields params
  have hatoms : params.map (·.atom) = [":\"UserName\"", ":user_name", ":\"äußere_norm\""] := by
    decide +kernel
  have hsettled : (fields.all fun f => f.name.toList.all fun c =>
      decide (isAlphanumeric c = true → isAscii c = true ∨ IsSettled c)) = true := by
    decide +kernel
  simp only [List.all_eq_true, decide_eq_true_eq] at hsettled
  have hdistinct := (atoms_ofFields_nodup_iff "com.example.search"
    (nodeOf ["UserName", "user_name", "ÄußereNorm"]) (by decide +kernel)).2.2.2.2 hsettled
  exact ⟨hatoms, hdistinct.1, hdistinct.2.1⟩

/-- The dotted capital I becomes two characters, and the second of them is no letter. -/
theorem atoms_ofFields_not_nodup_of_dotted_capital :
    let fields := Field.ofNode "com.example.search" (nodeOf ["Aİ", "ai", "ai\u0307"])
    (fields.map (·.name)).Nodup ∧
      (ofFields fields).1.map (·.atom) = [":\"ai\u0307\"", ":ai", ":\"ai\u0307\""] ∧
      ¬ ((ofFields fields).1.map (·.atom)).Nodup ∧ ¬ ((ofFields fields).1.map (·.key)).Nodup := by
  decide +kernel

end Lexgen.Emit.Param
