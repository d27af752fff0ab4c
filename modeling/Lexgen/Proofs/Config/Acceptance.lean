import Lexgen.Config
import Mathlib.Data.List.Forall2

namespace Lexgen.Config

/-- The node has no block, no property and this one value. -/
structure HasValue (node : Kdl.Node) (value : Kdl.Value) : Prop where
  block : node.children = none
  entries : node.entries = [{ value }]

/-- The names of nodes and the kinds of values they take. -/
inductive Takes : String → Kdl.Value → Prop where
  | output (text : String) : Takes "output" (.string text)
  | runtimeModule (text : String) : Takes "runtime-module" (.string text)
  | input (text : String) : Takes "input" (.string text)
  | clean (value : Bool) : Takes "clean" (.bool value)
  | checkRefs (value : Bool) : Takes "check-refs" (.bool value)
  | jobs (n : Int) (least : 1 ≤ n) (greatest : n ≤ 0xFFFFFFFFFFFFFFFF) :
      Takes "jobs" (.integer n)

def IsWellFormed (node : Kdl.Node) : Prop := ∃ value, HasValue node value ∧ Takes node.name value

/-- Every node can be used by itself, and none but `input` is repeated. -/
structure Acceptable (nodes : List Kdl.Node) : Prop where
  wellFormed : ∀ node ∈ nodes, IsWellFormed node
  once : ∀ name, name ≠ "input" → (nodes.map (·.name)).count name ≤ 1

/-- What is wrong when a node of this name has one value and does not take it. -/
def kindProblem (name : String) : Problem :=
  if name ∈ ["output", "runtime-module", "input"] then .notString name
  else if name ∈ ["clean", "check-refs"] then .notBool name
  else if name = "jobs" then .notPositive
  else .unknownNode name

/-- What is wrong with a node by itself: the first of three rules that it breaks. -/
inductive IsFaulty (node : Kdl.Node) : Problem → Prop where
  | block (hblock : node.children ≠ none) : IsFaulty node (.hasBlock node.name)
  | values (hblock : node.children = none) (hvalues : ∀ value, node.entries ≠ [{ value }]) :
      IsFaulty node (.notOneValue node.name)
  | kind (value : Kdl.Value) (hvalue : HasValue node value) (hkind : ¬ Takes node.name value) :
      IsFaulty node (kindProblem node.name)

/-- The problem of a node after others: its own, or else that its name is among theirs. -/
inductive IsRefused (before : List Kdl.Node) (node : Kdl.Node) : Problem → Prop where
  | faulty {p : Problem} (hfaulty : IsFaulty node p) : IsRefused before node p
  | repeated (hnode : IsWellFormed node) (hname : node.name ≠ "input")
      (hbefore : node.name ∈ before.map (·.name)) : IsRefused before node (.repeated node.name)

/-- The value of an option, as a node gives it. -/
def value? (c : Config) (name : String) : Option Kdl.Value :=
  if name = "output" then c.output.map fun path => .string path.text
  else if name = "runtime-module" then c.runtimeModule.map .string
  else if name = "clean" then c.clean.map .bool
  else if name = "jobs" then c.jobs.map fun n : Nat => .integer n
  else if name = "check-refs" then c.checkRefs.map .bool
  else none

/-- Every option is what its node says, or is not set; the inputs stand in the order of their
nodes. -/
structure IsDescribed (nodes : List Kdl.Node) (c : Config) : Prop where
  options : ∀ name value, c.value? name = some value ↔
    name ≠ "input" ∧ ∃ node ∈ nodes, node.name = name ∧ HasValue node value
  inputs : List.Forall₂ (fun node input => HasValue node (.string input))
    (nodes.filter (·.name = "input")) c.inputs

section Nodes

variable {node : Kdl.Node} {value value' : Kdl.Value} {before : List Kdl.Node} {p p' : Problem}

theorem HasValue.unique (hvalue : HasValue node value) (hvalue' : HasValue node value') :
    value = value' := by
  have hentries := hvalue.entries.symm.trans hvalue'.entries
  simpa using hentries

theorem IsFaulty.not_isWellFormed (hfaulty : IsFaulty node p) : ¬ IsWellFormed node := by
  rintro ⟨value, hvalue, htakes⟩
  cases hfaulty with
  | block hblock => exact hblock hvalue.block
  | values hblock hvalues => exact hvalues value hvalue.entries
  | kind value' hvalue' hkind => exact hkind (hvalue.unique hvalue' ▸ htakes)

theorem IsFaulty.unique (hfaulty : IsFaulty node p) (hfaulty' : IsFaulty node p') : p = p' := by
  cases hfaulty with
  | block hblock =>
      cases hfaulty' with
      | block => rfl
      | values hblock' => exact absurd hblock' hblock
      | kind _ hvalue => exact absurd hvalue.block hblock
  | values hblock hvalues =>
      cases hfaulty' with
      | block hblock' => exact absurd hblock hblock'
      | values => rfl
      | kind value hvalue => exact absurd hvalue.entries (hvalues value)
  | kind value hvalue hkind =>
      cases hfaulty' with
      | block hblock => exact absurd hvalue.block hblock
      | values _ hvalues => exact absurd hvalue.entries (hvalues value)
      | kind => rfl

theorem IsRefused.unique (hrefused : IsRefused before node p)
    (hrefused' : IsRefused before node p') : p = p' := by
  cases hrefused with
  | faulty hfaulty =>
      cases hrefused' with
      | faulty hfaulty' => exact hfaulty.unique hfaulty'
      | repeated hnode => exact absurd hnode hfaulty.not_isWellFormed
  | repeated hnode =>
      cases hrefused' with
      | faulty hfaulty => exact absurd hnode hfaulty.not_isWellFormed
      | repeated => rfl

theorem isWellFormed_or_isFaulty (node : Kdl.Node) :
    IsWellFormed node ∨ ∃ p, IsFaulty node p := by
  by_cases hblock : node.children = none
  · by_cases hentries : ∃ value, node.entries = [{ value }]
    · obtain ⟨value, hentries⟩ := hentries
      by_cases hkind : Takes node.name value
      · exact .inl ⟨value, ⟨hblock, hentries⟩, hkind⟩
      · exact .inr ⟨_, .kind value ⟨hblock, hentries⟩ hkind⟩
    · exact .inr ⟨_, .values hblock (not_exists.mp hentries)⟩
  · exact .inr ⟨_, .block hblock⟩

theorem Takes.exists_eq_string {name : String} (htakes : Takes name value)
    (hname : name = "input") : ∃ input, value = .string input := by
  cases htakes with
  | input text => exact ⟨text, rfl⟩
  | _ => exact absurd hname (by decide)

theorem Acceptable.concat_iff (hbefore : Acceptable before) :
    Acceptable (before ++ [node]) ↔
      IsWellFormed node ∧ (node.name ≠ "input" → node.name ∉ before.map (·.name)) := by
  constructor
  · intro hall
    refine ⟨hall.wellFormed node (by simp), fun hname hmem => ?_⟩
    have hcount := hall.once node.name hname
    rw [List.map_append, List.count_append, List.map_singleton, List.count_singleton_self] at hcount
    exact absurd (List.count_pos_iff.mpr hmem) (by omega)
  · rintro ⟨hnode, hfresh⟩
    refine ⟨?_, fun name hname => ?_⟩
    · rw [List.forall_mem_append, List.forall_mem_singleton]
      exact ⟨hbefore.wellFormed, hnode⟩
    · rw [List.map_append, List.count_append, List.map_singleton, List.count_singleton]
      split
      · rename_i heq
        rw [beq_iff_eq] at heq
        subst heq
        exact Nat.le_of_eq (by rw [List.count_eq_zero.mpr (hfresh hname)])
      · exact hbefore.once name hname

theorem IsRefused.not_acceptable (hbefore : Acceptable before)
    (hrefused : IsRefused before node p) : ¬ Acceptable (before ++ [node]) := by
  rw [hbefore.concat_iff]
  rintro ⟨hnode, hfresh⟩
  cases hrefused with
  | faulty hfaulty => exact hfaulty.not_isWellFormed hnode
  | repeated _ hname hmem => exact hfresh hname hmem

theorem Acceptable.of_append {after : List Kdl.Node} (hall : Acceptable (before ++ after)) :
    Acceptable before where
  wellFormed node hnode := hall.wellFormed node (List.mem_append_left after hnode)
  once name hname := by
    have hcount := hall.once name hname
    rw [List.map_append, List.count_append] at hcount
    exact Nat.le_of_add_right_le hcount

end Nodes

section Options

variable {c c' : Config}

theorem ext_value? (hvalues : ∀ name, c.value? name = c'.value? name)
    (hinputs : c.inputs = c'.inputs) : c = c' := by
  obtain ⟨output, runtimeModule, clean, jobs, checkRefs, inputs⟩ := c
  obtain ⟨output', runtimeModule', clean', jobs', checkRefs', inputs'⟩ := c'
  have hpath : Function.Injective fun path : Path => Kdl.Value.string path.text := by
    rintro ⟨text⟩ ⟨text'⟩ heq
    exact congrArg Path.mk (Kdl.Value.string.inj heq)
  have hword : Function.Injective fun n : Nat => Kdl.Value.integer n := by
    intro n n' heq
    exact Int.ofNat_inj.mp (Kdl.Value.integer.inj heq)
  have houtput : output = output' := Option.map_injective hpath (hvalues "output")
  have hruntimeModule : runtimeModule = runtimeModule' :=
    Option.map_injective (fun _ _ => Kdl.Value.string.inj) (hvalues "runtime-module")
  have hclean : clean = clean' :=
    Option.map_injective (fun _ _ => Kdl.Value.bool.inj) (hvalues "clean")
  have hjobs : jobs = jobs' := Option.map_injective hword (hvalues "jobs")
  have hcheckRefs : checkRefs = checkRefs' :=
    Option.map_injective (fun _ _ => Kdl.Value.bool.inj) (hvalues "check-refs")
  cases hinputs
  subst houtput hruntimeModule hclean hjobs hcheckRefs
  rfl

end Options

section Steps

variable {c : Config} {node : Kdl.Node} {value : Kdl.Value} {p : Problem}

theorem singleValue_of_hasValue (hvalue : HasValue node value) : singleValue node = .ok value := by
  rw [singleValue, hvalue.block, hvalue.entries]
  rfl

theorem addNode_of_not_takes (c : Config) (hvalue : HasValue node value)
    (hkind : ¬ Takes node.name value) : addNode c node = .error (kindProblem node.name) := by
  rw [addNode, singleValue_of_hasValue hvalue]
  generalize node.name = name at hkind ⊢
  simp only [bind, Except.bind]
  split
  · cases value with
    | string text => exact absurd (.output text) hkind
    | _ => rfl
  · cases value with
    | string text => exact absurd (.runtimeModule text) hkind
    | _ => rfl
  · cases value with
    | bool value => exact absurd (.clean value) hkind
    | _ => rfl
  · cases value with
    | integer n =>
        have hrange : ¬ (0 < n ∧ n < Word.size64) := by
          rintro ⟨hleast, hgreatest⟩
          rw [Word.size64] at hgreatest
          exact hkind (.jobs n (by omega) (by omega))
        rw [expectJobs, if_neg hrange]
        rfl
    | _ => rfl
  · cases value with
    | bool value => exact absurd (.checkRefs value) hkind
    | _ => rfl
  · cases value with
    | string text => exact absurd (.input text) hkind
    | _ => rfl
  · -- no option has this name
    rename_i houtput hruntimeModule hclean hjobs hcheckRefs hinput
    have hstring : name ∉ ["output", "runtime-module", "input"] := by
      simpa using ⟨houtput, hruntimeModule, hinput⟩
    have hbool : name ∉ ["clean", "check-refs"] := by simpa using ⟨hclean, hcheckRefs⟩
    rw [kindProblem, if_neg hstring, if_neg hbool, if_neg hjobs]

theorem addNode_of_isFaulty (c : Config) (hfaulty : IsFaulty node p) :
    addNode c node = .error p := by
  cases hfaulty with
  | block hblock =>
      have hsome : node.children.isSome = true := Option.isSome_iff_ne_none.mpr hblock
      rw [addNode, singleValue, if_pos hsome]
      rfl
  | values hblock hvalues =>
      have hnone : ¬ node.children.isSome = true := by simp [hblock]
      rw [addNode, singleValue, if_neg hnone]
      split
      · rename_i value hentries
        exact absurd hentries (hvalues value)
      · rfl
  | kind value hvalue hkind => exact addNode_of_not_takes c hvalue hkind

theorem addNode_of_input {input : String} (c : Config) (hvalue : HasValue node (.string input))
    (hname : node.name = "input") :
    addNode c node = .ok { c with inputs := c.inputs ++ [input] } := by
  rw [addNode, singleValue_of_hasValue hvalue, hname]
  rfl

/-- The configuration with a further option set. -/
def HasSet (c : Config) (name : String) (value : Kdl.Value) (c' : Config) : Prop :=
  (∀ other, c'.value? other = if other = name then some value else c.value? other) ∧
    c'.inputs = c.inputs

/-- What becomes of an option that a node gives a value. -/
def SetsOnce (c : Config) (name : String) (value : Kdl.Value) (result : Except Problem Config) :
    Prop :=
  (c.value? name ≠ none ∧ result = .error (.repeated name)) ∨
    (c.value? name = none ∧ ∃ c', result = .ok c' ∧ HasSet c name value c')

theorem setsOnce_of_slot {α : Type} {name : String} (slot : Option α) (toValue : α → Kdl.Value)
    (update : Option α → Config) (a : α) (hslot : c.value? name = slot.map toValue)
    (hset : HasSet c name (toValue a) (update (some a))) :
    SetsOnce c name (toValue a) ((setOnce name slot a).map update) := by
  cases slot with
  | some b => exact .inl ⟨by simp [hslot], rfl⟩
  | none => exact .inr ⟨hslot, _, rfl, hset⟩

theorem expectJobs_of_range {n : Nat} (hleast : 1 ≤ n) (hgreatest : n ≤ 0xFFFFFFFFFFFFFFFF) :
    expectJobs (.integer n) = .ok n := by
  have hrange : 0 < (n : Int) ∧ (n : Int) < Word.size64 := by
    rw [Word.size64]
    omega
  rw [expectJobs, if_pos hrange, Int.toNat_natCast]

theorem addNode_of_option (c : Config) (hvalue : HasValue node value)
    (htakes : Takes node.name value) (hname : node.name ≠ "input") :
    SetsOnce c node.name value (addNode c node) := by
  rw [addNode, singleValue_of_hasValue hvalue]
  generalize node.name = name at hname htakes ⊢
  cases htakes with
  | output text =>
      have hset : HasSet c "output" (.string text) { c with output := some ⟨text⟩ } :=
        ⟨fun other => by by_cases hother : other = "output" <;> simp [value?, hother], rfl⟩
      exact setsOnce_of_slot c.output (fun path => .string path.text)
        (fun slot => { c with output := slot }) ⟨text⟩ rfl hset
  | runtimeModule text =>
      have hset : HasSet c "runtime-module" (.string text) { c with runtimeModule := some text } :=
        ⟨fun other => by by_cases hother : other = "runtime-module" <;> simp [value?, hother], rfl⟩
      exact setsOnce_of_slot c.runtimeModule .string (fun slot => { c with runtimeModule := slot })
        text rfl hset
  | input text => exact absurd rfl hname
  | clean value =>
      have hset : HasSet c "clean" (.bool value) { c with clean := some value } :=
        ⟨fun other => by by_cases hother : other = "clean" <;> simp [value?, hother], rfl⟩
      exact setsOnce_of_slot c.clean .bool (fun slot => { c with clean := slot }) value rfl hset
  | checkRefs value =>
      have hset : HasSet c "check-refs" (.bool value) { c with checkRefs := some value } :=
        ⟨fun other => by by_cases hother : other = "check-refs" <;> simp [value?, hother], rfl⟩
      exact setsOnce_of_slot c.checkRefs .bool (fun slot => { c with checkRefs := slot }) value rfl
        hset
  | jobs n hleast hgreatest =>
      obtain ⟨n, rfl⟩ := Int.eq_ofNat_of_zero_le (Int.le_of_lt hleast)
      have hset : HasSet c "jobs" (.integer n) { c with jobs := some n } :=
        ⟨fun other => by by_cases hother : other = "jobs" <;> simp [value?, hother], rfl⟩
      have hjobs : expectJobs (.integer n) = .ok n :=
        expectJobs_of_range (by omega) (by omega)
      simp only [bind, Except.bind, hjobs]
      exact setsOnce_of_slot c.jobs (fun n : Nat => .integer n)
        (fun slot => { c with jobs := slot }) n rfl hset

end Steps

section Runs

variable {before nodes : List Kdl.Node} {node : Kdl.Node} {c c' : Config}

theorem acceptable_nil : Acceptable [] := ⟨by simp, by simp⟩

theorem isDescribed_nil : IsDescribed [] {} := by
  refine ⟨fun name value => ?_, .nil⟩
  simp [value?]

theorem IsDescribed.value?_eq_none_iff (hbefore : Acceptable before) (hc : IsDescribed before c)
    {name : String} (hname : name ≠ "input") :
    c.value? name = none ↔ name ∉ before.map (·.name) := by
  rw [← not_iff_not, not_not, ← ne_eq, Option.ne_none_iff_exists']
  constructor
  · rintro ⟨value, hvalue⟩
    obtain ⟨-, node, hnode, rfl, -⟩ := (hc.options name value).mp hvalue
    exact List.mem_map_of_mem hnode
  · intro hmem
    obtain ⟨node, hnode, rfl⟩ := List.mem_map.mp hmem
    obtain ⟨value, hvalue, -⟩ := hbefore.wellFormed node hnode
    exact ⟨value, (hc.options _ value).mpr ⟨hname, node, hnode, rfl, hvalue⟩⟩

theorem exists_mem_concat_iff {name : String} {value : Kdl.Value} :
    (∃ n ∈ before ++ [node], n.name = name ∧ HasValue n value) ↔
      (∃ n ∈ before, n.name = name ∧ HasValue n value) ∨
        node.name = name ∧ HasValue node value := by
  simp [or_and_right, exists_or]

theorem IsDescribed.concat_input {input : String} (hc : IsDescribed before c)
    (hvalue : HasValue node (.string input)) (hname : node.name = "input") :
    IsDescribed (before ++ [node]) { c with inputs := c.inputs ++ [input] } where
  options name value := by
    rw [exists_mem_concat_iff, hname]
    have hoptions := hc.options name value
    refine hoptions.trans (and_congr_right fun hother => ?_)
    exact (or_iff_left fun hnode => hother hnode.1.symm).symm
  inputs := by
    rw [List.filter_append, List.filter_cons_of_pos (by simpa using hname), List.filter_nil]
    exact List.rel_append hc.inputs (.cons hvalue .nil)

theorem IsDescribed.concat_option {value : Kdl.Value} (hc : IsDescribed before c)
    (hvalue : HasValue node value) (hname : node.name ≠ "input")
    (hfresh : c.value? node.name = none) (hset : HasSet c node.name value c') :
    IsDescribed (before ++ [node]) c' where
  options name value' := by
    rw [exists_mem_concat_iff, hset.1]
    split
    · rename_i heq
      subst heq
      -- a node of this name before it would have set the option
      have hnone : ¬ ∃ n ∈ before, n.name = node.name ∧ HasValue n value' := by
        intro hbefore
        have hsome := (hc.options node.name value').mpr ⟨hname, hbefore⟩
        exact absurd (hfresh.symm.trans hsome) nofun
      constructor
      · intro heq
        exact ⟨hname, .inr ⟨rfl, Option.some.inj heq ▸ hvalue⟩⟩
      · rintro ⟨-, hbefore | ⟨-, hvalue'⟩⟩
        · exact absurd hbefore hnone
        · rw [hvalue.unique hvalue']
    · rename_i hne
      refine (hc.options name value').trans (and_congr_right fun _ => ?_)
      exact (or_iff_left fun hnode => hne hnode.1.symm).symm
  inputs := by
    rw [List.filter_append, List.filter_cons_of_neg (by simpa using hname), List.filter_nil,
      List.append_nil, hset.2]
    exact hc.inputs

theorem addNode_cases (hbefore : Acceptable before) (hc : IsDescribed before c)
    (node : Kdl.Node) :
    (∃ c', addNode c node = .ok c' ∧ Acceptable (before ++ [node]) ∧
      IsDescribed (before ++ [node]) c') ∨
    ∃ p, addNode c node = .error p ∧ IsRefused before node p := by
  rcases isWellFormed_or_isFaulty node with hnode | ⟨p, hfaulty⟩
  · obtain ⟨value, hvalue, htakes⟩ := hnode
    by_cases hname : node.name = "input"
    · obtain ⟨input, rfl⟩ := htakes.exists_eq_string hname
      refine .inl ⟨_, addNode_of_input c hvalue hname, ?_, hc.concat_input hvalue hname⟩
      exact hbefore.concat_iff.mpr ⟨⟨_, hvalue, htakes⟩, fun hne => absurd hname hne⟩
    · have hslot := hc.value?_eq_none_iff hbefore hname
      rcases addNode_of_option c hvalue htakes hname with ⟨htaken, hadd⟩ | ⟨hfree, c', hadd, hset⟩
      · have hmem : node.name ∈ before.map (·.name) :=
          not_not.mp fun hmem => htaken (hslot.mpr hmem)
        exact .inr ⟨_, hadd, .repeated ⟨value, hvalue, htakes⟩ hname hmem⟩
      · refine .inl ⟨c', hadd, ?_, hc.concat_option hvalue hname hfree hset⟩
        exact hbefore.concat_iff.mpr ⟨⟨value, hvalue, htakes⟩, fun _ => hslot.mp hfree⟩
  · exact .inr ⟨p, addNode_of_isFaulty c hfaulty, .faulty hfaulty⟩

theorem foldlM_addNode_cases (hbefore : Acceptable before) (hc : IsDescribed before c)
    (nodes : List Kdl.Node) :
    (∃ c', nodes.foldlM addNode c = .ok c' ∧ Acceptable (before ++ nodes) ∧
      IsDescribed (before ++ nodes) c') ∨
    ∃ seen node after p, nodes = seen ++ node :: after ∧ nodes.foldlM addNode c = .error p ∧
      Acceptable (before ++ seen) ∧ IsRefused (before ++ seen) node p := by
  induction nodes generalizing before c with
  | nil => exact .inl ⟨c, rfl, by rwa [List.append_nil], by rwa [List.append_nil]⟩
  | cons node nodes ih =>
      rw [List.foldlM_cons]
      rcases addNode_cases hbefore hc node with ⟨c', hadd, hbefore', hc'⟩ | ⟨p, hadd, hrefused⟩
      · -- the node joins those before it, and the rest is read after one node more
        rw [hadd, List.append_cons]
        rcases ih hbefore' hc' with hall | ⟨seen, next, after, p, rfl, hrun, hseen, hrefused⟩
        · exact .inl hall
        · rw [← List.append_cons] at hseen hrefused
          exact .inr ⟨node :: seen, next, after, p, rfl, hrun, hseen, hrefused⟩
      · rw [hadd]
        refine .inr ⟨[], node, nodes, p, rfl, rfl, ?_, ?_⟩
        · rwa [List.append_nil]
        · rwa [List.append_nil]

end Runs

section Configurations

variable {nodes nodes' : List Kdl.Node} {c c' : Config} {p : Problem}

theorem ofNodes_cases (nodes : List Kdl.Node) :
    (∃ c, ofNodes nodes = .ok c ∧ Acceptable nodes ∧ IsDescribed nodes c) ∨
    ∃ before node after p, nodes = before ++ node :: after ∧ ofNodes nodes = .error p ∧
      Acceptable before ∧ IsRefused before node p :=
  foldlM_addNode_cases acceptable_nil isDescribed_nil nodes

theorem IsRefused.not_acceptable_append {before after : List Kdl.Node} {node : Kdl.Node}
    (hbefore : Acceptable before) (hrefused : IsRefused before node p) :
    ¬ Acceptable (before ++ node :: after) := by
  intro hall
  rw [List.append_cons] at hall
  exact hrefused.not_acceptable hbefore hall.of_append

theorem exists_ofNodes_of_acceptable (hall : Acceptable nodes) : ∃ c, ofNodes nodes = .ok c := by
  rcases ofNodes_cases nodes with ⟨c, hok, -⟩ | ⟨before, node, after, p, rfl, -, hbefore, hrefused⟩
  · exact ⟨c, hok⟩
  · exact absurd hall (hrefused.not_acceptable_append hbefore)

theorem of_ofNodes_eq_ok (hok : ofNodes nodes = .ok c) :
    Acceptable nodes ∧ IsDescribed nodes c := by
  rcases ofNodes_cases nodes with ⟨c', hok', hall, hc⟩ | ⟨_, _, _, p, -, herror, -⟩
  · obtain rfl := Except.ok.inj (hok.symm.trans hok')
    exact ⟨hall, hc⟩
  · exact absurd (hok.symm.trans herror) nofun

theorem IsDescribed.unique (hc : IsDescribed nodes c) (hc' : IsDescribed nodes c') : c = c' := by
  apply ext_value?
  · intro name
    apply Option.ext
    intro value
    rw [hc.options, hc'.options]
  · refine List.right_unique_forall₂' ?_ hc.inputs hc'.inputs
    intro node input input' hvalue hvalue'
    exact Kdl.Value.string.inj (hvalue.unique hvalue')

theorem ofNodes_eq_ok_iff : ofNodes nodes = .ok c ↔ Acceptable nodes ∧ IsDescribed nodes c := by
  refine ⟨of_ofNodes_eq_ok, ?_⟩
  rintro ⟨hall, hc⟩
  obtain ⟨c', hok⟩ := exists_ofNodes_of_acceptable hall
  rw [hok, hc.unique (of_ofNodes_eq_ok hok).2]

theorem Acceptable.perm (hall : Acceptable nodes) (hperm : nodes.Perm nodes') :
    Acceptable nodes' where
  wellFormed node hnode := hall.wellFormed node (hperm.mem_iff.mpr hnode)
  once name hname := by
    rw [← (hperm.map _).count_eq]
    exact hall.once name hname

theorem IsDescribed.perm (hc : IsDescribed nodes c) (hperm : nodes.Perm nodes')
    (hinputs : nodes'.filter (·.name = "input") = nodes.filter (·.name = "input")) :
    IsDescribed nodes' c where
  options name value := by
    rw [hc.options]
    simp only [hperm.mem_iff]
  inputs := by
    rw [hinputs]
    exact hc.inputs

/-- The problem that is reported is the one of the first node that cannot be added. -/
theorem ofNodes_eq_error_iff : ofNodes nodes = .error p ↔
    ∃ before node after, nodes = before ++ node :: after ∧ Acceptable before ∧
      IsRefused before node p := by
  constructor
  · intro herror
    rcases ofNodes_cases nodes with ⟨c, hok, -⟩ | ⟨before, node, after, p', hnodes, herror', hrest⟩
    · exact absurd (herror.symm.trans hok) nofun
    · obtain rfl := Except.error.inj (herror.symm.trans herror')
      exact ⟨before, node, after, hnodes, hrest⟩
  · rintro ⟨before, node, after, rfl, hbefore, hrefused⟩
    obtain ⟨c, hok⟩ := exists_ofNodes_of_acceptable hbefore
    have hc := (of_ofNodes_eq_ok hok).2
    rw [ofNodes] at hok ⊢
    rw [List.foldlM_append, hok]
    rcases addNode_cases hbefore hc node with ⟨c', -, hall, -⟩ | ⟨p', hadd, hrefused'⟩
    · exact absurd hall (hrefused.not_acceptable hbefore)
    · change List.foldlM addNode c (node :: after) = .error p
      rw [List.foldlM_cons, hadd, hrefused.unique hrefused']
      rfl

end Configurations

/-- Reading nodes is exact. It succeeds just when every node can be used and no option is repeated,
and then says what the nodes say, whatever the order of the options among themselves and the
inputs. Otherwise it reports the first node that breaks a rule. -/
theorem ofNodes_exact (nodes : List Kdl.Node) :
    ((∃ c, ofNodes nodes = .ok c) ↔ Acceptable nodes) ∧
    (∀ c, ofNodes nodes = .ok c ↔ Acceptable nodes ∧ IsDescribed nodes c) ∧
    (∀ nodes' c, nodes.Perm nodes' →
      nodes'.filter (·.name = "input") = nodes.filter (·.name = "input") →
        ofNodes nodes = .ok c → ofNodes nodes' = .ok c) ∧
    (∀ p, ofNodes nodes = .error p ↔ ∃ before node after, nodes = before ++ node :: after ∧
      Acceptable before ∧ ¬ Acceptable (before ++ [node]) ∧ IsRefused before node p) ∧
    ∀ text, Kdl.parse text = some nodes → parse text = ofNodes nodes := by
  refine ⟨⟨fun ⟨c, hok⟩ => (of_ofNodes_eq_ok hok).1, exists_ofNodes_of_acceptable⟩,
    fun c => ofNodes_eq_ok_iff, ?_, ?_, ?_⟩
  · intro nodes' c hperm hinputs hok
    obtain ⟨hall, hc⟩ := of_ofNodes_eq_ok hok
    exact ofNodes_eq_ok_iff.mpr ⟨hall.perm hperm, hc.perm hperm hinputs⟩
  · intro p
    rw [ofNodes_eq_error_iff]
    constructor
    · rintro ⟨before, node, after, hnodes, hbefore, hrefused⟩
      exact ⟨before, node, after, hnodes, hbefore, hrefused.not_acceptable hbefore, hrefused⟩
    · rintro ⟨before, node, after, hnodes, hbefore, -, hrefused⟩
      exact ⟨before, node, after, hnodes, hbefore, hrefused⟩
  · intro text hparse
    rw [parse, hparse]

section Reordered

/-- A node with one value. -/
def plainNode (name : String) (value : Kdl.Value) : Kdl.Node := ⟨name, [{ value }], none⟩

/-- Two inputs with an option between them. -/
def inputsAndJobs : List Kdl.Node :=
  [plainNode "input" (.string "a"), plainNode "jobs" (.integer 4), plainNode "input" (.string "b")]

def outputNode : Kdl.Node := plainNode "output" (.string "lib")

theorem kdl_parse_clean : Kdl.parse "clean #true" = some [plainNode "clean" (.bool true)] := by
  -- equality of nodes is not decidable, that of their parts is
  have hview : (Kdl.parse "clean #true").map
      (·.map fun node => (node.name, node.entries, node.children.isNone)) =
        some [("clean", [{ value := .bool true }], true)] := by
    decide +kernel
  obtain ⟨nodes, hparse, hnodes⟩ := Option.map_eq_some_iff.mp hview
  obtain ⟨⟨name, entries, children⟩, rest, rfl, hnode, hrest⟩ := List.map_eq_cons_iff.mp hnodes
  obtain ⟨rfl, rfl, rfl⟩ : name = _ ∧ entries = _ ∧ children = none := by simpa using hnode
  rw [hparse, List.map_eq_nil_iff.mp hrest]
  rfl

/-- The output may come last or first; a second one is refused at its place, before an unknown node
behind it. -/
theorem ofNodes_exact_outputNode :
    (inputsAndJobs ++ [outputNode]).Perm (outputNode :: inputsAndJobs) ∧
    ofNodes (outputNode :: inputsAndJobs) =
      .ok { output := some ⟨"lib"⟩, jobs := some 4, inputs := ["a", "b"] } ∧
    ofNodes (outputNode :: inputsAndJobs ++ [outputNode, plainNode "source" .null]) =
      .error (.repeated "output") ∧
    parse "clean #true" = .ok { clean := some true } := by
  have hperm := List.perm_append_singleton outputNode inputsAndJobs
  obtain ⟨-, -, hreordered, -⟩ := ofNodes_exact (inputsAndJobs ++ [outputNode])
  have hreordered := hreordered _ _ hperm rfl rfl
  have hbefore : Acceptable (outputNode :: inputsAndJobs) :=
    (ofNodes_exact (outputNode :: inputsAndJobs)).1.mp ⟨_, hreordered⟩
  have hrefused : IsRefused (outputNode :: inputsAndJobs) outputNode (.repeated "output") :=
    .repeated ⟨_, ⟨rfl, rfl⟩, .output "lib"⟩ (by decide) List.mem_cons_self
  obtain ⟨-, -, -, herror, -⟩ :=
    ofNodes_exact (outputNode :: inputsAndJobs ++ [outputNode, plainNode "source" .null])
  obtain ⟨-, -, -, -, htext⟩ := ofNodes_exact [plainNode "clean" (.bool true)]
  refine ⟨hperm, hreordered, (herror _).mpr ⟨_, _, _, rfl, hbefore, ?_, hrefused⟩, ?_⟩
  · exact hrefused.not_acceptable hbefore
  · exact htext _ kdl_parse_clean

end Reordered

end Lexgen.Config
