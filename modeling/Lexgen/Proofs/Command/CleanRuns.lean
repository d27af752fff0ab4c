import Lexgen.Command
import Lexgen.Proofs.Run.WrittenFiles

/-!
Runs of the command that remove the output directory first. If the path of the directory finds it,
the files below it after a run are those of the report, whatever was there before; a path through a
missing directory does not find it, and then old files stay. Nothing is removed or written before
the inputs are known, nor when the lexicons are only printed.
-/

namespace Lexgen

open Lexgen.Action

section Keeping

variable {α β : Type}

/-- Whatever comes of an action, the disk is as it was. -/
def Action.KeepsDisk (action : Action α) : Prop := ∀ w, (action.exec w).2.disk = w.disk

theorem Action.KeepsDisk.disk_eq {action : Action α} (haction : action.KeepsDisk) {w w' : World}
    {result : Except Error α} (hexec : action.exec w = (result, w')) : w'.disk = w.disk := by
  have hkeeps := haction w
  rwa [hexec] at hkeeps

theorem Action.KeepsDisk.bind {action : Action α} {next : α → Action β} (haction : action.KeepsDisk)
    (hnext : ∀ a, (next a).KeepsDisk) : (action >>= next).KeepsDisk := by
  intro w
  rcases hexec : action.exec w with ⟨e | a, w'⟩
  · rw [exec_bind_error hexec]
    exact haction.disk_eq hexec
  · rw [exec_bind_ok hexec, hnext a w', haction.disk_eq hexec]

theorem Action.keepsDisk_pure (a : α) : (pure a : Action α).KeepsDisk := fun _ => rfl

theorem Action.keepsDisk_throw (e : Error) : (throw e : Action α).KeepsDisk := fun _ => rfl

theorem Action.keepsDisk_report (events : List Event) : (report events).KeepsDisk := fun _ => rfl

theorem Action.keepsDisk_query (f : Disk → Except Error α) : (query f).KeepsDisk := by
  intro w
  rw [exec_query]

theorem Action.keepsDisk_expandInputs (inputs : List String) : (expandInputs inputs).KeepsDisk := by
  intro w
  rw [expandInputs, exec_bind_ok (exec_get w)]
  refine (keepsDisk_report _).bind (fun _ => ?_) w
  split
  · exact keepsDisk_pure _
  · exact keepsDisk_throw _

theorem Generator.keepsDisk_load (p : Path) : (load p).KeepsDisk := by
  intro w
  rw [exec_load]
  cases Inputs.loadFile w.disk p with
  | ok compiled => rfl
  | error e =>
      dsimp only
      split <;> rfl

end Keeping

theorem Settings.printIr_of_resolve {args : Arguments} {config : Option Config} {s : Settings}
    (hresolve : Settings.resolve args config = .ok s) : s.printIr = args.printIr := by
  have hgiven : ∀ inputs : List String, ∀ given : Settings, given.printIr = args.printIr →
      (if inputs.isEmpty then .error .noInputs else .ok given : Except Config.Problem Settings) =
        .ok s → s.printIr = args.printIr := by
    intro inputs given hgiven hok
    split at hok
    · simp at hok
    · rw [← Except.ok.inj hok, hgiven]
  exact hgiven _ _ rfl hresolve

namespace Command

variable {scheduler : Scheduler} {args : Arguments} {argv : List String} {cores : Nat}
  {s : Settings} {paths : List Path} {w w' start found : World} {report : Report}

theorem keepsDisk_settings (args : Arguments) : (settings args).KeepsDisk := by
  refine (keepsDisk_query _).bind fun config => ?_
  split
  · exact keepsDisk_pure _
  · exact keepsDisk_throw _

theorem keepsDisk_inputs (args : Arguments) : (inputs args).KeepsDisk :=
  (keepsDisk_settings args).bind fun _ => (keepsDisk_expandInputs _).bind fun _ => keepsDisk_pure _

theorem keepsDisk_loadAll (paths : List Path) : (loadAll paths).KeepsDisk := by
  induction paths with
  | nil => exact keepsDisk_pure _
  | cons p paths ih =>
      refine (Generator.keepsDisk_load p).bind fun loaded => ?_
      cases loaded with
      | inl outcome => exact ih
      | inr l => exact ih.bind fun _ => keepsDisk_pure _

theorem keepsDisk_checkReferences (lexicons : List Lexicon) :
    (checkReferences lexicons).KeepsDisk :=
  (keepsDisk_report _).bind fun _ => keepsDisk_report _

theorem keepsDisk_reportLeftOut (malformed : List (Path × Error)) :
    (reportLeftOut malformed).KeepsDisk := by
  rw [reportLeftOut]
  split
  · exact keepsDisk_pure _
  · exact (keepsDisk_report _).bind fun _ => keepsDisk_report _

theorem keepsDisk_summarize (s : Settings) (report : Report) : (summarize s report).KeepsDisk := by
  rw [summarize]
  have hrest : ∀ _ : Unit, KeepsDisk (do
      reportLeftOut report.malformed
      Action.report
        [.complete report.written.length report.lexicons.length report.empty.length s.output]) :=
    fun _ => (keepsDisk_reportLeftOut _).bind fun _ => keepsDisk_report _
  split
  · exact (keepsDisk_checkReferences _).bind hrest
  · exact hrest ()

theorem exec_clean_eq_ok {out : Path} (hclean : (clean out).exec w = (.ok (), w')) :
    w'.disk = (w.disk.removeDirectory out).1 ∧
      ∀ fault, (w.disk.removeDirectory out).2 = .error fault → fault = .notFound := by
  rw [clean, exec_bind_ok (exec_get w)] at hclean
  rcases hremove : w.disk.removeDirectory out with ⟨d, fault | done⟩ <;> rw [hremove] at hclean
  · have hthrow : ∀ e : Error, (.error e, { w with disk := d }) ≠ (Except.ok (), w') := by simp
    cases fault with
    | notFound =>
        obtain ⟨-, rfl⟩ := Prod.mk.inj hclean
        simp
    | _ => exact absurd hclean (hthrow _)
  · obtain ⟨-, rfl⟩ := Prod.mk.inj hclean
    simp

theorem not_hasFile_of_exec_clean {out : Path} (hfinds : w.disk.Finds out)
    (hclean : (clean out).exec w = (.ok (), w')) :
    w'.disk.workingDirectory = w.disk.workingDirectory ∧
      ∀ names, names ≠ [] → ¬ w'.disk.HasFile (w.disk.place out ++ names) := by
  obtain ⟨hdisk, hresult⟩ := exec_clean_eq_ok hclean
  rcases w.disk.removeDirectory_cases out with
    ⟨fault, hlocate, hremove⟩ | ⟨-, hremove | ⟨d, fault, hremove, hfault⟩⟩
  · -- The path leads nowhere, so the disk is as it was, and it had no file there.
    rw [hdisk, hremove]
    refine ⟨rfl, fun names hnames hfile => ?_⟩
    obtain ⟨place, hfound⟩ := hfinds names hnames hfile
    rw [hlocate] at hfound
    simp at hfound
  · rw [hdisk, hremove]
    refine ⟨rfl, ?_⟩
    rintro names hnames ⟨contents, hfile⟩
    have hgone := w.disk.tree.get?_eraseAt (w.disk.place out)
      (List.append_ne_nil_of_right_ne_nil (w.disk.place out) hnames)
    rw [if_pos (List.prefix_append _ _)] at hgone
    exact absurd (hgone.symm.trans hfile) (by simp)
  · exact absurd (hresult fault (by rw [hremove])) hfault

/-- The workers go on until all documents are worked off. -/
def Completes (scheduler : Scheduler) : Prop :=
  ∀ (g : Generator) (out : Path) (paths : List Path) (jobs : Nat) (w : World),
    ((WorkerPool.ofSize (min jobs paths.length) w).run (g.work out paths)
      (scheduler jobs paths.length)).isDone = true

theorem completes_turns : Completes Generator.turns :=
  fun g out paths jobs w => g.isDone_turns out paths jobs w

theorem written_of_exec_generateBy {d : Disk} (hscheduler : Completes scheduler)
    (hrun : (generateBy scheduler s cores paths).exec w = (.ok report, w')) (hdisk : w.disk = d)
    (hclean : s.clean = true) (hfinds : d.Finds s.output) :
    (∀ p ∈ report.written, ∃ names, names ≠ [] ∧ d.place p = d.place s.output ++ names) ∧
      ∀ names, names ≠ [] → (w'.disk.HasFile (d.place s.output ++ names) ↔
        ∃ p ∈ report.written, d.place p = d.place s.output ++ names) := by
  subst hdisk
  rw [generateBy, if_pos hclean] at hrun
  obtain ⟨⟨⟩, w₁, hcleaned, hrun⟩ := exec_bind_eq_ok hrun
  obtain ⟨report', w₂, hwritten, hrun⟩ := exec_bind_eq_ok hrun
  obtain ⟨⟨⟩, w₃, hsummary, hrun⟩ := exec_bind_eq_ok hrun
  obtain ⟨hreport, rfl⟩ := Prod.mk.inj hrun
  obtain rfl := Except.ok.inj hreport
  obtain ⟨hworking, hnone⟩ := not_hasFile_of_exec_clean hfinds hcleaned
  have hplace := Disk.place_congr hworking
  have hdisk : w₃.disk = w₂.disk := (keepsDisk_summarize s report').disk_eq hsummary
  have hfilled := Generator.filled_of_exec_writeDocumentsBy (hscheduler _ _ _ _) hwritten
  constructor
  · simpa only [hplace] using hfilled.below
  · intro names hnames
    rw [hdisk, hfilled.hasFile]
    simp only [hplace, hnone names hnames, false_or]

theorem printIr_of_exec_inputs (hinputs : (inputs args).exec start = (.ok (s, paths), found)) :
    s.printIr = args.printIr := by
  obtain ⟨s', w, hsettings, hrest⟩ := exec_bind_eq_ok hinputs
  obtain ⟨paths', w', -, hpure⟩ := exec_bind_eq_ok hrest
  obtain ⟨hpair, -⟩ := Prod.mk.inj hpure
  obtain ⟨rfl, -⟩ := Prod.mk.inj (Except.ok.inj hpair)
  obtain ⟨config, w'', -, hmatch⟩ := exec_bind_eq_ok hsettings
  split at hmatch
  · rename_i resolved hresolve
    obtain ⟨hs, -⟩ := Prod.mk.inj hmatch
    obtain rfl := Except.ok.inj hs
    exact Settings.printIr_of_resolve hresolve
  · obtain ⟨hthrow, -⟩ := Prod.mk.inj hmatch
    simp at hthrow

theorem exec_performBy (hinputs : (inputs args).exec start = (.ok (s, paths), found)) :
    (performBy scheduler args cores).exec start =
      (if s.printIr then do return printedIr (← loadAll paths)
        else do
          let _ ← generateBy scheduler s cores paths
          return "" : Action String).exec
        { found with events := found.events ++ [.foundDocuments paths.length] } := by
  rw [performBy, exec_bind_ok hinputs]
  exact exec_bind_ok (exec_report _ _) _

theorem disk_of_exec_performBy (hstops : args.printIr = true ∨
      ∃ e, ((inputs args).exec start).1 = .error e) :
    ((performBy scheduler args cores).exec start).2.disk = start.disk := by
  rcases hinputs : (inputs args).exec start with ⟨e | ⟨s, paths⟩, found⟩
  · rw [performBy, exec_bind_error hinputs]
    exact (keepsDisk_inputs args).disk_eq hinputs
  · rw [hinputs] at hstops
    have hprint : s.printIr = true := by
      rw [printIr_of_exec_inputs hinputs]
      exact hstops.resolve_right (by simp)
    rw [exec_performBy hinputs, if_pos hprint]
    have hfound : found.disk = start.disk := (keepsDisk_inputs args).disk_eq hinputs
    exact ((keepsDisk_loadAll paths).bind (fun _ => keepsDisk_pure _) _).trans hfound

theorem runBy_of_parse (scheduler : Scheduler) (cores : Nat) (start : World)
    (hargs : Arguments.parse argv = .ok args) :
    (runBy scheduler cores argv start).world = ((performBy scheduler args cores).exec start).2 ∧
      ((runBy scheduler cores argv start).exitCode = 0 →
        ∃ text, ((performBy scheduler args cores).exec start).1 = .ok text) := by
  rw [runBy, hargs]
  have hexec : (performBy scheduler args cores).run.run start =
    (performBy scheduler args cores).exec start := rfl
  dsimp only
  rw [hexec]
  rcases (performBy scheduler args cores).exec start with ⟨e | text, w⟩ <;> simp

/-- After a run that removed its output root, the files below the root are the written ones,
whatever was there before, if the path of the root finds it, as a path without `..` does. A run that
stops before its documents are known, or that prints, changes nothing on the disk. -/
theorem files_after_clean_run (scheduler : Scheduler) (hscheduler : Completes scheduler)
    (cores : Nat) (argv : List String) (start : World) :
    (∀ args s paths found, Arguments.parse argv = .ok args →
      (inputs args).exec start = (.ok (s, paths), found) →
      s.clean = true → args.printIr = false → start.disk.Finds s.output →
      (runBy scheduler cores argv start).exitCode = 0 →
      ∃ report,
        (generateBy scheduler s cores paths).exec
            { found with events := found.events ++ [.foundDocuments paths.length] } =
          (.ok report, (runBy scheduler cores argv start).world) ∧
        (∀ p ∈ report.written, ∃ names, names ≠ [] ∧
          start.disk.place p = start.disk.place s.output ++ names) ∧
        ∀ names, names ≠ [] →
          ((runBy scheduler cores argv start).world.disk.HasFile
              (start.disk.place s.output ++ names) ↔
            ∃ p ∈ report.written, start.disk.place p = start.disk.place s.output ++ names)) ∧
    (∀ out : Path, start.disk.tree.Connected → out.text ≠ "" → ".." ∉ out.pieces →
      start.disk.Finds out) ∧
    ((∀ args, Arguments.parse argv = .ok args →
        args.printIr = true ∨ ∃ e, ((inputs args).exec start).1 = .error e) →
      (runBy scheduler cores argv start).world.disk = start.disk) := by
  refine ⟨?_, fun out => Disk.finds_of_connected, ?_⟩
  · intro args s paths found hargs hinputs hclean hprint hfinds hexit
    obtain ⟨hworld, hok⟩ := runBy_of_parse scheduler cores start hargs
    obtain ⟨text, htext⟩ := hok hexit
    have hrun : (performBy scheduler args cores).exec start =
        (.ok text, (runBy scheduler cores argv start).world) := Prod.ext htext hworld.symm
    rw [exec_performBy hinputs, printIr_of_exec_inputs hinputs, hprint] at hrun
    obtain ⟨report, w, hgenerate, hpure⟩ := exec_bind_eq_ok hrun
    have hend : w = (runBy scheduler cores argv start).world := (Prod.mk.inj hpure).2
    rw [hend] at hgenerate
    have hdisk : found.disk = start.disk := (keepsDisk_inputs args).disk_eq hinputs
    exact ⟨report, hgenerate,
      written_of_exec_generateBy hscheduler hgenerate hdisk hclean hfinds⟩
  · intro hstops
    rcases hargs : Arguments.parse argv with refusal | args
    · rw [runBy, hargs]
      cases refusal <;> rfl
    · rw [(runBy_of_parse scheduler cores start hargs).1]
      exact disk_of_exec_performBy (hstops args hargs)

section Removed

theorem eq_ok_of_toOption {ε α : Type} {x : Except ε α} {a : α} (hx : x.toOption = some a) :
    x = .ok a := by
  cases x with
  | error e => simp [Except.toOption] at hx
  | ok b => simpa [Except.toOption] using hx

/-- A configuration that asks for a clean run, and an output root with two older files. -/
def staleDisk : Disk where
  tree := ⟨[
    (["dobby.kdl"], .file (Text.encode "clean #true\noutput \"out\"\n")),
    (["in.json"], .file (Text.encode "\x7b\"id\":\"a.b.c\",\"defs\":\x7b\x7d\x7d")),
    (["out"], .directory),
    (["out", "a"], .directory),
    (["out", "a", "old.ex"], .file (Text.encode "old")),
    (["out", "stale.ex"], .file (Text.encode "old"))]⟩

def staleSettings : Settings where
  inputs := ["in.json"]
  output := ⟨"out"⟩
  clean := true
  jobs := none
  runtimeModule := "Lexicon"
  checkRefs := false
  printIr := false

theorem files_after_clean_run_stale :
    staleDisk.HasFile ["out", "stale.ex"] ∧
      (runBy Generator.turns 2 ["in.json"] { disk := staleDisk }).exitCode = 0 ∧
      (∃ report : Report,
        report.written = [⟨"out/lexicon_tid.ex"⟩, ⟨"out/lexicon_xrpc.ex"⟩] ∧
        ∀ names, names ≠ [] →
          ((runBy Generator.turns 2 ["in.json"] { disk := staleDisk }).world.disk.HasFile
              (["out"] ++ names) ↔
            ∃ p ∈ report.written, staleDisk.place p = ["out"] ++ names)) ∧
      (runBy Generator.turns 2 ["in.json", "--print-ir"] { disk := staleDisk }).exitCode = 0 ∧
      (runBy Generator.turns 2 ["in.json", "--print-ir"] { disk := staleDisk }).world.disk =
        staleDisk := by
  have hexit : (runBy Generator.turns 2 ["in.json"] { disk := staleDisk }).exitCode = 0 ∧
      (runBy Generator.turns 2 ["in.json", "--print-ir"] { disk := staleDisk }).exitCode = 0 := by
    decide +kernel
  have hargs : (Arguments.parse ["in.json"]).toOption = some { inputs := ["in.json"] } ∧
      (Arguments.parse ["in.json", "--print-ir"]).toOption =
        some { inputs := ["in.json"], printIr := true } := by
    decide +kernel
  have hfound : ((inputs { inputs := ["in.json"] }).exec { disk := staleDisk }).1.toOption =
      some (staleSettings, [⟨"in.json"⟩]) := by
    decide +kernel
  have hwritten : ((generateBy Generator.turns staleSettings 2 [⟨"in.json"⟩]).exec
      { ((inputs { inputs := ["in.json"] }).exec { disk := staleDisk }).2 with
        events := ((inputs { inputs := ["in.json"] }).exec { disk := staleDisk }).2.events ++
          [.foundDocuments [(⟨"in.json"⟩ : Path)].length] }).1.toOption.map (·.written) =
      some [⟨"out/lexicon_tid.ex"⟩, ⟨"out/lexicon_xrpc.ex"⟩] := by
    decide +kernel
  have hconnected : staleDisk.tree.Connected :=
    FileTree.connected_of_entries (by decide +kernel)
  have hplace : staleDisk.place ⟨"out"⟩ = ["out"] := by decide +kernel
  have hstale : staleDisk.tree.get? ["out", "stale.ex"] = some (.file (Text.encode "old")) := by
    decide +kernel
  rcases hinputs : (inputs { inputs := ["in.json"] }).exec { disk := staleDisk } with
    ⟨result, found⟩
  rw [hinputs] at hfound hwritten
  obtain rfl := eq_ok_of_toOption hfound
  obtain ⟨hfiles, hfinds, -⟩ := files_after_clean_run Generator.turns completes_turns 2
    ["in.json"] { disk := staleDisk }
  obtain ⟨-, -, hkept⟩ := files_after_clean_run Generator.turns completes_turns 2
    ["in.json", "--print-ir"] { disk := staleDisk }
  have hout : staleDisk.Finds staleSettings.output :=
    hfinds ⟨"out"⟩ hconnected (by decide) (by decide +kernel)
  obtain ⟨report, hreport, -, hsame⟩ := hfiles _ _ _ _ (eq_ok_of_toOption hargs.1) hinputs rfl rfl
    hout hexit.1
  rw [hreport] at hwritten
  refine ⟨⟨_, hstale⟩, hexit.1, ⟨report, Option.some.inj hwritten, ?_⟩, hexit.2, ?_⟩
  · rwa [show staleDisk.place staleSettings.output = ["out"] from hplace] at hsame
  · refine hkept fun args hparse => .inl ?_
    rw [eq_ok_of_toOption hargs.2] at hparse
    rw [← Except.ok.inj hparse]

/-- The directory that the path goes through is missing when the output root is to be removed, and
is made with the output root. So the older file stays beside the two of the report. -/
theorem clean_run_keeps_stale_file :
    staleDisk.place ⟨"missing/../out"⟩ = ["out"] ∧
      ((generateBy Generator.turns { staleSettings with output := ⟨"missing/../out"⟩ } 2
        [⟨"in.json"⟩]).exec { disk := staleDisk }).1.toOption.map
          (fun report => report.written.map staleDisk.place) =
        some [["out", "lexicon_tid.ex"], ["out", "lexicon_xrpc.ex"]] ∧
      (run 2 ["in.json", "--clean", "-o", "missing/../out"] { disk := staleDisk }).exitCode = 0 ∧
      (run 2 ["in.json", "--clean", "-o", "missing/../out"]
        { disk := staleDisk }).world.disk.tree.get? ["out", "stale.ex"] =
          some (.file (Text.encode "old")) := by
  decide +kernel

end Removed

end Command

end Lexgen
