import Lexgen.Document.Reader
import Lexgen.Proofs.Schema.NestedReferences

namespace Lexgen

/-- The keys are in ascending order, each there once. -/
def Ascending {α : Type} (entries : List (String × α)) : Prop :=
  (entries.map Prod.fst).Pairwise (· < ·)

theorem ascending_nil {α : Type} : Ascending ([] : List (String × α)) := List.Pairwise.nil

theorem Ascending.setMember {α : Type} {entries : List (String × α)} (hentries : Ascending entries)
    (key : String) (value : α) : Ascending (setMember key value entries) := by
  rw [Ascending, map_fst_setMember]
  exact Schema.pairwise_insertSorted key hentries

namespace Json.Scan

variable {α β : Type} {p : α → Prop} {q : β → Prop}

/-- Everything that a step reads has the property `p`. -/
def Yields (p : α → Prop) (step : Scan α) : Prop :=
  ∀ rest a rest', step rest = .ok (a, rest') → p a

theorem yields_any (step : Scan α) : Yields (fun _ => True) step := fun _ _ _ _ => trivial

theorem yields_pure {a : α} (ha : p a) : Yields p (pure a) := by
  intro rest b rest' hrun
  obtain ⟨rfl, -⟩ := Prod.mk.inj (Except.ok.inj hrun)
  exact ha

theorem yields_fail (fault : Fault) : Yields p (fail fault) := nofun

theorem Yields.bind {step : Scan α} {next : α → Scan β} (hstep : Yields p step)
    (hnext : ∀ a, p a → Yields q (next a)) : Yields q (step >>= next) := by
  intro rest b rest' hrun
  rcases hread : step rest with failure | ⟨a, mid⟩
  · have hbind : (step >>= next) rest = .error failure := by
      change (step rest >>= fun r => next r.1 r.2) = _
      rw [hread]
      rfl
    rw [hbind] at hrun
    exact absurd hrun nofun
  · have hbind : (step >>= next) rest = next a mid := by
      change (step rest >>= fun r => next r.1 r.2) = _
      rw [hread]
      rfl
    rw [hbind] at hrun
    exact hnext a (hstep rest a mid hread) mid b rest' hrun

theorem Yields.after (step : Scan α) {next : α → Scan β} (hnext : ∀ a, Yields q (next a)) :
    Yields q (step >>= next) :=
  (yields_any step).bind fun a _ => hnext a

theorem yields_membersWith (fuel depth : Nat) (first : Bool) {entries : List (String × Json)}
    (hentries : Ascending entries) : Yields Ascending (membersWith fuel depth first entries) := by
  -- the entries read so far are general: each member is set at the place of its key
  induction fuel generalizing first entries with
  | zero => exact yields_fail _
  | succ fuel ih =>
      rw [membersWith]
      refine .after _ fun key? => ?_
      cases key? with
      | none => exact .after _ fun _ => yields_pure hentries
      | some key =>
          exact .after _ fun _ => .after _ fun value => ih false (hentries.setMember key value)

theorem yields_members (depth : Nat) : Yields Ascending (members depth) :=
  fun rest => yields_membersWith _ depth true ascending_nil rest

end Json.Scan

namespace Document

open Lexgen.Json Lexgen.Json.Scan

def Draft.IsOrdered (d : Draft) : Prop := ∀ defs ∈ d.defs, Ascending defs

theorem isOrdered_empty : ({} : Draft).IsOrdered := nofun

theorem exists_of_bind_eq_ok {ε α β : Type} {x : Except ε α} {next : α → Except ε β} {b : β}
    (hbind : (x >>= next) = .ok b) : ∃ a, x = .ok a ∧ next a = .ok b := by
  cases x with
  | error e => exact absurd hbind nofun
  | ok a => exact ⟨a, rfl, hbind⟩

theorem Draft.defs_setScalar {d d' : Draft} {field : Field} {value : Json}
    (hset : d.setScalar field value = .ok d') : d'.defs = d.defs := by
  cases field with
  | defs => exact absurd hset nofun
  | _ =>
      obtain ⟨_, -, hset⟩ := exists_of_bind_eq_ok hset
      obtain rfl := Except.ok.inj hset
      rfl

theorem Draft.IsOrdered.setScalar {d d' : Draft} {field : Field} {value : Json} (hd : d.IsOrdered)
    (hset : d.setScalar field value = .ok d') : d'.IsOrdered := by
  rw [IsOrdered, defs_setScalar hset]
  exact hd

theorem yields_fieldValue (depth : Nat) {d : Draft} (field : Field) (hd : d.IsOrdered) :
    Yields Draft.IsOrdered (fieldValue depth d field) := by
  have hjudge : ∀ value, Yields Draft.IsOrdered (fieldValue.judge (d.setScalar field value)) := by
    intro value
    cases hset : d.setScalar field value with
    | error fault => exact yields_fail fault
    | ok d' => exact yields_pure (hd.setScalar hset)
  rw [fieldValue]
  refine .after _ fun beginning => ?_
  cases beginning with
  | scalar value => exact hjudge value
  | array => exact hjudge _
  | object =>
      dsimp only
      split
      · refine .after _ fun _ => (yields_members _).bind fun defs hdefs => yields_pure ?_
        rintro _ hmem
        obtain rfl := Option.some.inj hmem
        exact hdefs
      · exact hjudge _

theorem yields_membersFrom (depth fuel : Nat) (first : Bool) {d : Draft} (hd : d.IsOrdered) :
    Yields Draft.IsOrdered (membersFrom depth fuel first d) := by
  induction fuel generalizing first d with
  | zero => exact yields_fail _
  | succ fuel ih =>
      rw [membersFrom]
      refine .after _ fun key? => ?_
      cases key? with
      | none => exact .after _ fun _ => yields_pure hd
      | some key =>
          dsimp only
          split
          · split
            · exact .after _ fun _ => yields_fail _
            · exact .after _ fun _ => (yields_fieldValue depth _ hd).bind fun d hd => ih false hd
          · exact .after _ fun _ => .after _ fun _ => ih false hd

theorem yields_itemsFrom (depth : Nat) (fields : List Field) (count : Nat) {d : Draft}
    (hd : d.IsOrdered) : Yields Draft.IsOrdered (itemsFrom depth d count fields) := by
  induction fields generalizing count d with
  | nil => exact .after _ fun _ => yields_pure hd
  | cons field fields ih =>
      rw [itemsFrom]
      refine .after _ fun more => ?_
      split
      · exact (yields_fieldValue depth field hd).bind fun d hd => ih _ hd
      · refine .after _ fun _ => ?_
        split
        · exact yields_pure hd
        · exact yields_fail _

theorem ascending_of_finish {d : Draft} {doc : Document} (hd : d.IsOrdered)
    (hfinish : d.finish = .ok doc) : Ascending doc.defs := by
  rw [Draft.finish] at hfinish
  split at hfinish
  · exact absurd hfinish nofun
  · obtain rfl := Except.ok.inj hfinish
    cases hdefs : d.defs with
    | none => exact ascending_nil
    | some defs => exact hd defs hdefs

theorem yields_scan : Yields (fun doc => Ascending doc.defs) scan := by
  rw [scan]
  refine .after _ fun beginning => ?_
  cases beginning with
  | object =>
      have hmembers : Yields Draft.IsOrdered fun rest =>
          membersFrom (recursionLimit - 1) (rest.length + 1) true {} rest :=
        fun rest => yields_membersFrom _ _ true isOrdered_empty rest
      refine .after _ fun _ => hmembers.bind fun d hd => ?_
      beta_reduce
      cases hdoc : d.finish with
      | error fault => exact yields_fail fault
      | ok doc => exact yields_pure (ascending_of_finish hd hdoc)
  | array =>
      refine .after _ fun _ => (yields_itemsFrom _ _ 0 isOrdered_empty).bind fun d hd => ?_
      beta_reduce
      cases hdoc : d.finish with
      | error fault => exact yields_fail fault
      | ok doc => exact yields_pure (ascending_of_finish hd hdoc)
  | scalar value => exact (yields_fail (p := fun _ => False) _).bind nofun

theorem eq_of_checkId {d doc : Document} (hcheck : d.checkId = .ok doc) : doc = d := by
  rw [checkId] at hcheck
  split at hcheck
  · exact absurd hcheck nofun
  · split at hcheck
    · exact (Except.ok.inj hcheck).symm
    · exact absurd hcheck nofun

theorem ascending_of_parse {bytes : Text.Bytes} {doc : Document} (hparse : parse bytes = .ok doc) :
    Ascending doc.defs := by
  rw [parse] at hparse
  split at hparse
  · rename_i d hrun
    obtain rfl := eq_of_checkId hparse
    rw [Scan.run] at hrun
    split at hrun
    · rename_i result rest hscan
      obtain rfl := Except.ok.inj hrun
      have hyields : Yields (fun doc => Ascending doc.defs)
          (do let result ← scan; Scan.finish; pure result) :=
        yields_scan.bind fun _ hdoc => .after _ fun _ => yields_pure hdoc
      exact hyields _ _ _ hscan
    · exact absurd hrun nofun
  · exact absurd hparse nofun

section Values

variable {d d' : Draft} {value : Json} {doc : Document}

theorem Draft.IsOrdered.set {field : Field} (hd : d.IsOrdered)
    (hvalue : ∀ members, value = .object members → Ascending members)
    (hset : d.set field value = .ok d') : d'.IsOrdered := by
  rw [Draft.set.eq_def] at hset
  split at hset
  · obtain rfl := Except.ok.inj hset
    rintro _ hmem
    obtain rfl := Option.some.inj hmem
    exact hvalue _ rfl
  · exact hd.setScalar hset

theorem isOrdered_draftOfMembers {members : List (String × Json)} (hd : d.IsOrdered)
    (hmembers : ∀ inner, .object inner ∈ members.map Prod.snd → Ascending inner)
    (hdraft : draftOfMembers d members = .ok d') : d'.IsOrdered := by
  induction members generalizing d with
  | nil =>
      obtain rfl := Except.ok.inj hdraft
      exact hd
  | cons member rest ih =>
      obtain ⟨key, value⟩ := member
      have hrest : ∀ inner, .object inner ∈ rest.map Prod.snd → Ascending inner :=
        fun inner hinner => hmembers inner (List.mem_cons_of_mem _ hinner)
      rw [draftOfMembers] at hdraft
      split at hdraft
      · obtain ⟨next, hset, hdraft⟩ := exists_of_bind_eq_ok hdraft
        exact ih (hd.set (by rintro inner rfl; exact hmembers inner List.mem_cons_self) hset) hrest
          hdraft
      · exact ih hd hrest hdraft

theorem isOrdered_draftOfItems {fields : List Field} {items : List Json} {count : Nat}
    (hd : d.IsOrdered) (hitems : ∀ inner, .object inner ∈ items → Ascending inner)
    (hdraft : draftOfItems d count fields items = .ok d') : d'.IsOrdered := by
  fun_induction draftOfItems d count fields items with
  | case1 => exact Except.ok.inj hdraft ▸ hd
  | case2 => exact absurd hdraft nofun
  | case3 => exact Except.ok.inj hdraft ▸ hd
  | case4 => exact absurd hdraft nofun
  | case5 d count field fields item items ih =>
      obtain ⟨next, hset, hdraft⟩ := exists_of_bind_eq_ok hdraft
      refine ih next (hd.set ?_ hset) (fun inner hinner => ?_) hdraft
      · rintro inner rfl
        exact hitems inner List.mem_cons_self
      · exact hitems inner (List.mem_cons_of_mem _ hinner)

theorem ascending_of_ofJson (hvalue : ∀ inner, .object inner ∈ value.children → Ascending inner)
    (hdoc : ofJson value = .ok doc) : Ascending doc.defs := by
  rw [ofJson] at hdoc
  split at hdoc
  · rename_i d hread
    obtain rfl := eq_of_checkId hdoc
    cases value with
    | object members =>
        obtain ⟨draft, hdraft, hfinish⟩ := exists_of_bind_eq_ok hread
        exact ascending_of_finish (isOrdered_draftOfMembers isOrdered_empty hvalue hdraft) hfinish
    | array items =>
        obtain ⟨draft, hdraft, hfinish⟩ := exists_of_bind_eq_ok hread
        exact ascending_of_finish (isOrdered_draftOfItems isOrdered_empty hvalue hdraft) hfinish
    | _ => exact absurd hread nofun
  · exact absurd hdoc nofun

end Values

end Document

end Lexgen
