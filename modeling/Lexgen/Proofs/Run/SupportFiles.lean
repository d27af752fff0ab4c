import Lexgen.Proofs.Disk.Rewriting
import Lexgen.Proofs.Run.Effects

namespace Lexgen

open Lexgen.Text

/-- An attempt to write a file below an output root, with the disk it is made on. -/
structure Attempt where
  out : Path
  file : SourceFile
  /-- Whether the file is a support file. -/
  isSupport : Bool
  before : Disk

namespace Attempt

def path (a : Attempt) : Path := a.out.join a.file.path

/-- The disk that the attempt leaves, also if it fails. -/
def after (a : Attempt) : Disk := (a.before.writeFile a.path (encode a.file.contents)).1

def succeeds (a : Attempt) : Bool := (a.before.save a.out a.file).isSome

/-- What is reported of the attempt: a file that was written, or nothing. -/
def reports (a : Attempt) : List Event :=
  if a.succeeds then [if a.isSupport then .wroteCommonFile a.path else .wroteFile a.path] else []

/-- Attempts that are made one after the other take the disk `d` to the disk `d'`. -/
def Lead (d : Disk) : List Attempt → Disk → Prop
  | [], d' => d' = d
  | a :: later, d' => a.before = d ∧ Lead a.after later d'

/-- The attempts to write support files one after the other. -/
def saving (out : Path) (d : Disk) : List SourceFile → List Attempt
  | [] => []
  | file :: files =>
    ⟨out, file, true, d⟩ :: saving out (after ⟨out, file, true, d⟩) files

section Attempts

variable {d d' d₁ : Disk} {out : Path} {file : SourceFile} {files : List SourceFile}
  {isSupport : Bool}

theorem Lead.append {earlier later : List Attempt} (hearlier : Lead d earlier d₁)
    (hlater : Lead d₁ later d') : Lead d (earlier ++ later) d' := by
  induction earlier generalizing d with
  | nil =>
      obtain rfl := hearlier
      exact hlater
  | cons a earlier ih => exact ⟨hearlier.1, ih hearlier.2⟩

theorem Lead.exists_after {attempts : List Attempt} (hlead : Lead d attempts d')
    (hne : attempts ≠ []) : ∃ a ∈ attempts, a.after = d' := by
  induction attempts generalizing d with
  | nil => exact absurd rfl hne
  | cons a later ih =>
      cases later with
      | nil => exact ⟨a, List.mem_cons_self, hlead.2.symm⟩
      | cons b later =>
          obtain ⟨c, hc, hafter⟩ := ih hlead.2 (List.cons_ne_nil _ _)
          exact ⟨c, List.mem_cons_of_mem _ hc, hafter⟩

theorem after_of_save (hsave : d.save out file = some d') :
    after ⟨out, file, isSupport, d⟩ = d' :=
  congrArg Prod.fst (Disk.save_eq_some_iff_writeFile.mp hsave)

theorem reports_of_save (hsave : d.save out file = some d') :
    reports ⟨out, file, isSupport, d⟩ =
      [if isSupport then .wroteCommonFile (out.join file.path)
        else .wroteFile (out.join file.path)] := by
  simp [reports, succeeds, hsave, path]

theorem reports_of_save_eq_none (hsave : d.save out file = none) :
    reports ⟨out, file, isSupport, d⟩ = [] := by
  simp [reports, succeeds, hsave]

theorem out_of_mem_saving {a : Attempt} (ha : a ∈ saving out d files) :
    a.out = out ∧ a.isSupport = true ∧ a.file ∈ files := by
  induction files generalizing d with
  | nil => simp [saving] at ha
  | cons file files ih =>
      rcases List.mem_cons.mp ha with rfl | ha
      · exact ⟨rfl, rfl, List.mem_cons_self⟩
      · obtain ⟨hout, hsupport, hfile⟩ := ih ha
        exact ⟨hout, hsupport, List.mem_cons_of_mem _ hfile⟩

/-- Files that can all be written: each attempt succeeds and is reported. -/
structure Saves (out : Path) (d : Disk) (files : List SourceFile) (d' : Disk) : Prop where
  lead : Lead d (saving out d files) d'
  reports : (saving out d files).flatMap Attempt.reports =
    files.map fun file => .wroteCommonFile (out.join file.path)
  attempts : ∀ file ∈ files, ∃ a ∈ saving out d files, a.file = file ∧ a.succeeds = true

theorem saves_of_saveAll (hsaves : Disk.saveAll out d files = some d') : Saves out d files d' := by
  induction files generalizing d with
  | nil => exact ⟨(Option.some.inj hsaves).symm, rfl, by simp⟩
  | cons file files ih =>
      obtain ⟨d₁, hsave, hrest⟩ := Disk.saveAll_cons_eq_some_iff.mp hsaves
      have hlater := ih hrest
      have hafter : after ⟨out, file, true, d⟩ = d₁ := after_of_save hsave
      rw [← hafter] at hlater
      refine ⟨⟨rfl, hlater.lead⟩, ?_, ?_⟩
      · rw [saving, List.flatMap_cons, hlater.reports, reports_of_save hsave]
        rfl
      · rw [List.forall_mem_cons]
        refine ⟨⟨_, List.mem_cons_self, rfl, by simp [succeeds, hsave]⟩, ?_⟩
        intro file' hfile'
        obtain ⟨a, ha, hfile, hsucceeds⟩ := hlater.attempts file' hfile'
        exact ⟨a, List.mem_cons_of_mem _ ha, hfile, hsucceeds⟩

end Attempts

end Attempt

namespace Generator

open Lexgen.Action

/-- The calls of a generator. The documents of a call may be shared among workers. -/
inductive Call where
  | common (out : Path)
  | lexicon (l : Lexicon) (out : Path)
  | documents (paths : List Path) (out : Path) (jobs : Nat) (schedule : List Nat)

namespace Call

def root : Call → Path
  | .common out => out
  | .lexicon _ out => out
  | .documents _ out _ _ => out

/-- What a call does; it gives the paths that it says were written. -/
def action (g : Generator) : Call → Action (List Path)
  | .common out => g.writeCommon out
  | .lexicon l out => g.writeLexicon l out
  | .documents paths out jobs schedule => do
    return (← g.writeDocumentsBy schedule paths out jobs).written

/-- The world that a call leaves, also if it fails. -/
def after (g : Generator) (call : Call) (w : World) : World := ((call.action g).exec w).2

end Call

/-- The world that calls leave, one made after the other. -/
def afterAll (g : Generator) (calls : List Call) (w : World) : World :=
  calls.foldl (fun w call => call.after g w) w

/-- The file of an attempt is one that the generator writes. -/
def Writes (g : Generator) (a : Attempt) : Prop :=
  if a.isSupport then a.file ∈ supportFiles g.runtimeModule
  else ∃ l : Lexicon, a.file ∈ (l.generate g.runtimeModule).1

/-- The attempts for the output root `out` that take one world to another. What is reported of
writes is what is reported of them. -/
structure Makes (g : Generator) (out : Path) (w : World) (attempts : List Attempt) (w' : World) :
    Prop where
  disks : Attempt.Lead w.disk attempts w'.disk
  events : ∃ events, w'.events = w.events ++ events ∧
    events.filter Event.isWrite = attempts.flatMap Attempt.reports
  files : ∀ a ∈ attempts, a.out = out ∧ g.Writes a

/-- The attempts of calls, one made after the other, the first on the disk `d`. -/
inductive History (g : Generator) (d : Disk) : List Attempt → World → Prop where
  | start : History g d [] { disk := d }
  | call {attempts own : List Attempt} {w : World} (call : Call) :
      History g d attempts w → g.Makes call.root w own (call.after g w) →
        History g d (attempts ++ own) (call.after g w)

/-- All support files were written below a root: each by an attempt that succeeded, and one of the
attempts left a disk that holds all of them. -/
structure WroteSupport (g : Generator) (attempts : List Attempt) (out : Path) : Prop where
  each : ∀ file ∈ supportFiles g.runtimeModule, ∃ a ∈ attempts,
    a.isSupport = true ∧ a.out = out ∧ a.file = file ∧ a.succeeds = true
  together : ∃ a ∈ attempts, ∀ file ∈ supportFiles g.runtimeModule,
    a.after.read (out.join file.path) = .ok (encode file.contents)

/-- All support files were written into a root. -/
def Completed (g : Generator) (attempts : List Attempt) (root : Path) : Prop :=
  ∃ out : Path, root.same out = true ∧ g.WroteSupport attempts out

/-- The support files come first: below a root a file of a lexicon is written, or begun to be
written, after all of them. -/
def SupportFirst (g : Generator) (earlier attempts : List Attempt) : Prop :=
  ∀ before a after, attempts = before ++ a :: after → a.isSupport = false →
    g.Completed (earlier ++ before) a.out

/-- Whether an event says that the last of the support files was written into a root. -/
def isLastSupport (root : Path) : Event → Bool
  | .wroteCommonFile path => path.components == root.components ++ [.name "lexicon_xrpc.ex"]
  | _ => false

variable {g : Generator} {out root : Path} {w w' : World} {d : Disk}
  {attempts own : List Attempt}

theorem same_iff {p q : Path} : p.same q = true ↔ p.components = q.components := by
  simp [Path.same]

theorem same_eq_same {p q : Path} (hsame : p.same q = true) : p.same = q.same := by
  funext r
  rw [Path.same, Path.same, same_iff.mp hsame]

section Histories

theorem Makes.refl (g : Generator) (out : Path) (w : World) : g.Makes out w [] w :=
  ⟨rfl, ⟨[], by simp⟩, by simp⟩

theorem Makes.trans {w₁ : World} {later : List Attempt} (hown : g.Makes out w own w₁)
    (hlater : g.Makes out w₁ later w') : g.Makes out w (own ++ later) w' where
  disks := hown.disks.append hlater.disks
  events := by
    obtain ⟨events, hevents, hreports⟩ := hown.events
    obtain ⟨events', hevents', hreports'⟩ := hlater.events
    refine ⟨events ++ events', by rw [hevents', hevents, List.append_assoc], ?_⟩
    rw [List.filter_append, hreports, hreports', List.flatMap_append]
  files := List.forall_mem_append.mpr ⟨hown.files, hlater.files⟩

theorem exists_pieces_join {p q : Path} {front : List String} {name : String}
    (hpieces : q.pieces = front ++ [name]) : ∃ front', (p.join q).pieces = front' ++ [name] := by
  cases habsolute : q.isAbsolute with
  | true =>
      rw [Path.join, if_pos habsolute]
      exact ⟨front, hpieces⟩
  | false =>
      rw [Path.pieces_join p habsolute, hpieces, ← List.append_assoc]
      exact ⟨_, rfl⟩

theorem exists_pieces_of_writes {a : Attempt} (hwrites : g.Writes a) :
    ∃ front name, a.path.pieces = front ++ [name] ∧ Place.IsEntry name := by
  rw [Writes] at hwrites
  split at hwrites
  · obtain ⟨name, hlies⟩ := liesAt_of_mem_supportFiles hwrites
    exact ⟨_, name, hlies.pieces_join a.out, (hlies.names name (by simp)).isEntry⟩
  · obtain ⟨l, hfile⟩ := hwrites
    simp only [Lexicon.generate, List.mem_map, List.mem_filterMap] at hfile
    obtain ⟨_, ⟨artifact, -, hartifact⟩, hfile⟩ := hfile
    obtain ⟨_, -, rfl⟩ := Option.map_eq_some_iff.mp hartifact
    have hname := artifact.isName_fileName
    obtain ⟨front, hfront⟩ : ∃ front, (l.directory.join ⟨artifact.fileName⟩).pieces =
        front ++ [artifact.fileName] :=
      exists_pieces_join (hname.pieces.trans (List.nil_append _).symm)
    obtain ⟨front', hpieces⟩ := exists_pieces_join (p := a.out) hfront
    refine ⟨front', artifact.fileName, ?_, hname.isEntry⟩
    rw [Attempt.path, ← hfile]
    exact hpieces

theorem read_of_succeeds {a : Attempt} (hwrites : g.Writes a) (hsucceeds : a.succeeds = true) :
    a.after.read a.path = .ok (encode a.file.contents) := by
  obtain ⟨front, name, hpieces, hentry⟩ := exists_pieces_of_writes hwrites
  obtain ⟨d', hsave⟩ := Option.isSome_iff_exists.mp hsucceeds
  have hwrite := Disk.save_eq_some_iff_writeFile.mp hsave
  rw [show a.after = d' from congrArg Prod.fst hwrite]
  exact Disk.read_of_writeFile hpieces hentry hwrite

theorem History.writes (hhistory : g.History d attempts w) : ∀ a ∈ attempts, g.Writes a := by
  induction hhistory with
  | start => simp
  | call call _ hmakes ih =>
      exact List.forall_mem_append.mpr ⟨ih, fun a ha => (hmakes.files a ha).2⟩

theorem WroteSupport.mono {more : List Attempt} (hwrote : g.WroteSupport attempts out)
    (hmore : attempts ⊆ more) : g.WroteSupport more out where
  each file hfile := by
    obtain ⟨a, ha, hfacts⟩ := hwrote.each file hfile
    exact ⟨a, hmore ha, hfacts⟩
  together := by
    obtain ⟨a, ha, hread⟩ := hwrote.together
    exact ⟨a, hmore ha, hread⟩

end Histories

section Counts

theorem isLastSupport_of_isWrite {e : Event} (he : e.isWrite = false) :
    isLastSupport root e = false := by
  cases e <;> simp_all [isLastSupport, Event.isWrite]

theorem isLastSupport_of_liesAt {file : SourceFile} {name : String} (hlies : file.LiesAt [] name) :
    isLastSupport root (.wroteCommonFile (out.join file.path)) =
      (root.same out && name == "lexicon_xrpc.ex") := by
  rw [isLastSupport, hlies.components_join, Bool.eq_iff_iff, Bool.and_eq_true, beq_iff_eq,
    beq_iff_eq, same_iff]
  constructor
  · intro heq
    obtain ⟨hroot, hname⟩ := List.append_inj' heq rfl
    exact ⟨hroot.symm, by simpa using hname⟩
  · rintro ⟨hroot, rfl⟩
    rw [hroot]
    rfl

theorem countP_supportFiles (g : Generator) (out root : Path) :
    ((supportFiles g.runtimeModule).map fun file =>
      Event.wroteCommonFile (out.join file.path)).countP (isLastSupport root) =
        if root.same out then 1 else 0 := by
  obtain ⟨tidFile, requestFile, hfiles, htid, hrequest⟩ := liesAt_supportFiles g.runtimeModule
  rw [hfiles]
  simp [isLastSupport_of_liesAt htid, isLastSupport_of_liesAt hrequest]

theorem countP_of_append_cons {done later : List SourceFile} {file : SourceFile}
    (hfiles : supportFiles g.runtimeModule = done ++ file :: later) :
    (done.map fun file => Event.wroteCommonFile (out.join file.path)).countP (isLastSupport root) =
      0 := by
  obtain ⟨tidFile, requestFile, hsupport, htid, hrequest⟩ := liesAt_supportFiles g.runtimeModule
  rw [hsupport] at hfiles
  rcases done with _ | ⟨first, _ | ⟨second, rest⟩⟩
  · rfl
  · obtain ⟨rfl, -⟩ : tidFile = first ∧ _ := List.cons.inj hfiles
    simp [isLastSupport_of_liesAt htid]
  · simp at hfiles

/-- The last support file is reported once for each root that is ready. -/
def Counted (w : World) : Prop :=
  ∀ root : Path, w.events.countP (isLastSupport root) = if w.ready.any root.same then 1 else 0

theorem Counted.of_append (hw : Counted w) {later : List Event} (hready : w'.ready = w.ready)
    (hevents : w'.events = w.events ++ later)
    (hlater : ∀ root, later.countP (isLastSupport root) = 0) : Counted w' := by
  intro root
  rw [hevents, List.countP_append, hlater, hready, Nat.add_zero, hw]

theorem Effect.counted (heffect : g.Effect out w w') (hw : Counted w) : Counted w' := by
  cases heffect with
  | note hevents =>
      refine hw.of_append rfl rfl fun root => List.countP_eq_zero.mpr ?_
      intro e he
      simp [isLastSupport_of_isWrite (hevents e he)]
  | common hready _ =>
      intro root
      rw [List.countP_append, hw, countP_supportFiles, List.any_cons]
      cases hsame : root.same out with
      | true =>
          -- The root is the one written to, which was not ready before.
          rw [same_eq_same hsame, hready]
          simp
      | false => simp
  | commonRefused _ hfiles _ _ =>
      exact hw.of_append rfl rfl fun root => countP_of_append_cons hfiles
  | artifact _ _ _ => exact hw.of_append rfl rfl fun root => by simp [isLastSupport]
  | artifactRefused _ _ _ => exact hw.of_append rfl (List.append_nil _).symm fun root => rfl

end Counts

section Order

theorem SupportFirst.append {earlier later : List Attempt}
    (hattempts : g.SupportFirst earlier attempts)
    (hlater : g.SupportFirst (earlier ++ attempts) later) :
    g.SupportFirst earlier (attempts ++ later) := by
  intro before a after hsplit hsupport
  -- The attempt is among the later ones, or among the first ones. In the second case it may still
  -- be the first of the later ones, with nothing left of the others.
  rcases List.append_eq_append_iff.mp hsplit with
    ⟨between, rfl, hlater'⟩ | ⟨rest, hattempts', hrest⟩
  · have hfirst := hlater between a after hlater' hsupport
    rwa [List.append_assoc] at hfirst
  · cases rest with
    | nil =>
        have hfirst := hlater [] a after hrest.symm hsupport
        rwa [List.append_nil, hattempts', List.append_nil] at hfirst
    | cons b rest =>
        obtain ⟨rfl, -⟩ := List.cons.inj hrest
        exact hattempts before a rest hattempts' hsupport

theorem supportFirst_of_forall {earlier : List Attempt}
    (hattempts : ∀ a ∈ attempts, a.isSupport = true) : g.SupportFirst earlier attempts := by
  intro before a after hsplit hsupport
  rw [hattempts a (by simp [hsplit])] at hsupport
  simp at hsupport

/-- The roots that are ready are those below which all support files were written, the last of them
last, and files of lexicons were written only below roots that were ready. -/
structure Consistent (g : Generator) (attempts : List Attempt) (w : World) : Prop where
  wrote : ∀ out ∈ w.ready, g.WroteSupport attempts out
  last : ∀ a ∈ attempts, a.isSupport = true → a.succeeds = true →
    (supportFiles g.runtimeModule).getLast? = some a.file → w.ready.any a.out.same = true
  first : g.SupportFirst [] attempts

theorem Consistent.ready_iff (hw : g.Consistent attempts w) :
    w.ready.any root.same = true ↔ g.Completed attempts root := by
  constructor
  · intro hready
    obtain ⟨out, hout, hsame⟩ := List.any_eq_true.mp hready
    exact ⟨out, hsame, hw.wrote out hout⟩
  · rintro ⟨out, hsame, hwrote⟩
    obtain ⟨tidFile, requestFile, hsupport, -, -⟩ := liesAt_supportFiles g.runtimeModule
    obtain ⟨a, ha, hisSupport, rfl, rfl, hsucceeds⟩ :=
      hwrote.each requestFile (by simp [hsupport])
    have hready := hw.last a ha hisSupport hsucceeds (by simp [hsupport])
    rwa [same_eq_same hsame]

theorem consistent_start (g : Generator) (d : Disk) : g.Consistent [] { disk := d } :=
  ⟨by simp, by simp, supportFirst_of_forall (by simp)⟩

theorem Consistent.append (hw : g.Consistent attempts w) (hready : w'.ready = w.ready)
    (hlast : ∀ a ∈ own, a.isSupport = true → a.succeeds = true →
      (supportFiles g.runtimeModule).getLast? ≠ some a.file)
    (hfirst : g.SupportFirst attempts own) : g.Consistent (attempts ++ own) w' where
  wrote out hout := by
    rw [hready] at hout
    exact (hw.wrote out hout).mono (List.subset_append_left _ _)
  last := by
    rw [hready, List.forall_mem_append]
    exact ⟨hw.last, fun a ha hsupport hsucceeds hfile =>
      absurd hfile (hlast a ha hsupport hsucceeds)⟩
  first := hw.first.append hfirst

theorem Consistent.artifact (hw : g.Consistent attempts w) (hready : w.ready.any out.same = true)
    {file : SourceFile} {d' : Disk} {events : List Event} :
    g.Consistent (attempts ++ [⟨out, file, false, d⟩]) ⟨d', w.ready, events⟩ := by
  refine hw.append rfl (by simp) ?_
  intro before a after hsplit _
  rcases before with _ | ⟨b, before⟩
  · obtain ⟨rfl, -⟩ := List.cons.inj hsplit
    rw [List.append_nil]
    exact hw.ready_iff.mp hready
  · simp at hsplit

end Order

section Effects

theorem read_of_saveAll_supportFiles {d' : Disk}
    (hsaves : Disk.saveAll out d (supportFiles g.runtimeModule) = some d') :
    ∀ file ∈ supportFiles g.runtimeModule,
      d'.read (out.join file.path) = .ok (encode file.contents) := by
  have hread {d d' : Disk} {file : SourceFile} {name : String} (hlies : file.LiesAt [] name)
      (hsave : d.save out file = some d') :
      d'.read (out.join file.path) = .ok (encode file.contents) :=
    Disk.read_of_writeFile (hlies.pieces_join out) (hlies.names name (by simp)).isEntry
      (Disk.save_eq_some_iff_writeFile.mp hsave)
  obtain ⟨tidFile, requestFile, hfiles, htid, hrequest⟩ := liesAt_supportFiles g.runtimeModule
  rw [hfiles] at hsaves ⊢
  obtain ⟨d₁, hfirst, hrest⟩ := Disk.saveAll_cons_eq_some_iff.mp hsaves
  obtain ⟨d₂, hsecond, hnil⟩ := Disk.saveAll_cons_eq_some_iff.mp hrest
  obtain rfl := Option.some.inj hnil
  have hapart : d₁.place (out.join tidFile.path) ≠ d₁.place (out.join requestFile.path) := by
    rw [htid.place_join, hrequest.place_join]
    simp
  have hkept := Disk.read_of_save ⟨_, _, hrequest⟩ hsecond (hread htid hfirst) hapart
  simpa using ⟨hkept, hread hrequest hsecond⟩

theorem wroteSupport_saving {d' : Disk}
    (hsaves : Disk.saveAll out d (supportFiles g.runtimeModule) = some d') :
    g.WroteSupport (Attempt.saving out d (supportFiles g.runtimeModule)) out where
  each file hfile := by
    obtain ⟨a, ha, rfl, hsucceeds⟩ := (Attempt.saves_of_saveAll hsaves).attempts file hfile
    obtain ⟨hout, hsupport, -⟩ := Attempt.out_of_mem_saving ha
    exact ⟨a, ha, hsupport, hout, rfl, hsucceeds⟩
  together := by
    obtain ⟨a, ha, rfl⟩ := (Attempt.saves_of_saveAll hsaves).lead.exists_after
      (List.cons_ne_nil _ _)
    exact ⟨a, ha, read_of_saveAll_supportFiles hsaves⟩

theorem getLast?_supportFiles_ne {done later : List SourceFile} {file file' : SourceFile}
    (hfiles : supportFiles g.runtimeModule = done ++ file :: later) (hdone : file' ∈ done) :
    (supportFiles g.runtimeModule).getLast? ≠ some file' := by
  obtain ⟨tidFile, requestFile, hsupport, htid, hrequest⟩ := liesAt_supportFiles g.runtimeModule
  rw [hsupport] at hfiles ⊢
  rcases done with _ | ⟨first, _ | ⟨second, rest⟩⟩
  · simp at hdone
  · obtain ⟨rfl, -⟩ : tidFile = first ∧ _ := List.cons.inj hfiles
    obtain rfl := List.mem_singleton.mp hdone
    rintro hlast
    obtain rfl : requestFile = file' := Option.some.inj hlast
    exact absurd (htid.components.symm.trans hrequest.components) (by decide)
  · simp at hfiles

theorem filter_isWrite_map {files : List SourceFile} (event : Path → Event)
    (hevent : ∀ p, (event p).isWrite = true) :
    (files.map fun file => event (out.join file.path)).filter Event.isWrite =
      files.map fun file => event (out.join file.path) := by
  rw [List.filter_eq_self]
  intro e he
  obtain ⟨file, -, rfl⟩ := List.mem_map.mp he
  exact hevent _

theorem Effect.exists_makes (heffect : g.Effect out w w') (hw : g.Consistent attempts w) :
    ∃ own, g.Makes out w own w' ∧ g.Consistent (attempts ++ own) w' := by
  cases heffect with
  | note hevents =>
      refine ⟨[], ⟨rfl, ⟨_, rfl, ?_⟩, by simp⟩, hw.append rfl (by simp)
        (supportFirst_of_forall (by simp))⟩
      simpa using hevents
  | common hready hsaves =>
      have hall := Attempt.saves_of_saveAll hsaves
      have hmade {a : Attempt}
          (ha : a ∈ Attempt.saving out w.disk (supportFiles g.runtimeModule)) :=
        Attempt.out_of_mem_saving ha
      refine ⟨_, ⟨hall.lead, ⟨_, rfl, ?_⟩, ?_⟩, ?_, ?_, ?_⟩
      · rw [hall.reports, filter_isWrite_map .wroteCommonFile fun _ => rfl]
      · intro a ha
        obtain ⟨hout, hsupport, hfile⟩ := hmade ha
        exact ⟨hout, by rwa [Writes, if_pos hsupport]⟩
      · intro out' hout'
        rcases List.mem_cons.mp hout' with rfl | hout'
        · exact (wroteSupport_saving hsaves).mono (List.subset_append_right _ _)
        · exact (hw.wrote out' hout').mono (List.subset_append_left _ _)
      · rw [List.forall_mem_append]
        refine ⟨fun a ha hsupport hsucceeds hfile => ?_, fun a ha _ _ _ => ?_⟩
        · simp [hw.last a ha hsupport hsucceeds hfile]
        · rw [(hmade ha).1]
          simp [Path.same]
      · exact hw.first.append (supportFirst_of_forall fun a ha => (hmade ha).2.1)
  | commonRefused hready hfiles hdone hfile =>
      rename_i done later file d₁
      have hall := Attempt.saves_of_saveAll hdone
      have hmade {a : Attempt} (ha : a ∈ Attempt.saving out w.disk done) :=
        Attempt.out_of_mem_saving ha
      refine ⟨Attempt.saving out w.disk done ++ [⟨out, file, true, d₁⟩], ⟨?_, ⟨_, rfl, ?_⟩, ?_⟩,
        hw.append rfl ?_ ?_⟩
      · exact hall.lead.append ⟨rfl, rfl⟩
      · rw [List.flatMap_append, hall.reports, filter_isWrite_map .wroteCommonFile fun _ => rfl]
        simp [Attempt.reports_of_save_eq_none hfile]
      · rw [List.forall_mem_append, List.forall_mem_singleton]
        refine ⟨fun a ha => ?_, rfl, ?_⟩
        · obtain ⟨hout, hsupport, hmem⟩ := hmade ha
          refine ⟨hout, ?_⟩
          rw [Writes, if_pos hsupport, hfiles]
          exact List.mem_append_left _ hmem
        · rw [Writes, if_pos rfl, hfiles]
          simp
      · rw [List.forall_mem_append, List.forall_mem_singleton]
        refine ⟨fun a ha _ _ => getLast?_supportFiles_ne hfiles (hmade ha).2.2, ?_⟩
        intro _ hsucceeds
        simp [Attempt.succeeds, hfile] at hsucceeds
      · refine supportFirst_of_forall ?_
        rw [List.forall_mem_append, List.forall_mem_singleton]
        exact ⟨fun a ha => (hmade ha).2.1, rfl⟩
  | artifact hready hfile hsave =>
      rename_i l file d'
      refine ⟨[⟨out, file, false, w.disk⟩], ⟨⟨rfl, (Attempt.after_of_save hsave).symm⟩,
        ⟨_, rfl, ?_⟩, ?_⟩, ?_⟩
      · simp [Attempt.reports_of_save hsave, Event.isWrite]
      · simpa [Writes] using ⟨l, hfile⟩
      · exact hw.artifact hready
  | artifactRefused hready hfile hsave =>
      rename_i l file
      refine ⟨[⟨out, file, false, w.disk⟩], ⟨⟨rfl, rfl⟩, ⟨[], by simp, ?_⟩, ?_⟩, ?_⟩
      · simp [Attempt.reports_of_save_eq_none hsave]
      · simpa [Writes] using ⟨l, hfile⟩
      · exact hw.artifact hready

theorem Effects.exists_makes (heffects : g.Effects out w w') (hw : g.Consistent attempts w) :
    ∃ own, g.Makes out w own w' ∧ g.Consistent (attempts ++ own) w' := by
  induction heffects with
  | refl => exact ⟨[], .refl g out w, by rwa [List.append_nil]⟩
  | tail _ heffect ih =>
      obtain ⟨own, hown, hconsistent⟩ := ih
      obtain ⟨later, hlater, hconsistent'⟩ := heffect.exists_makes hconsistent
      exact ⟨own ++ later, hown.trans hlater, by rwa [← List.append_assoc]⟩

end Effects

section Calls

theorem Call.effects (g : Generator) (call : Call) (w : World) :
    g.Effects call.root w (call.after g w) := by
  cases call with
  | common out => exact effects_writeCommon g out w
  | lexicon l out => exact effects_writeLexicon g l out w
  | documents paths out jobs schedule =>
      apply effects_bind (effects_writeDocumentsBy g schedule paths out jobs w)
      intro report w' _
      exact .refl

theorem keeps_afterAll {P : World → Prop}
    (hkeeps : ∀ {out w w'}, g.Effect out w w' → P w → P w') (calls : List Call) (hw : P w) :
    P (g.afterAll calls w) := by
  induction calls generalizing w with
  | nil => exact hw
  | cons call calls ih => exact ih ((call.effects g w).keeps hkeeps hw)

theorem History.exists_afterAll (hhistory : g.History d attempts w)
    (hw : g.Consistent attempts w) (calls : List Call) :
    ∃ attempts', g.History d attempts' (g.afterAll calls w) ∧
      g.Consistent attempts' (g.afterAll calls w) := by
  induction calls generalizing attempts w with
  | nil => exact ⟨attempts, hhistory, hw⟩
  | cons call calls ih =>
      obtain ⟨own, hown, hconsistent⟩ := (call.effects g w).exists_makes hw
      exact ih (hhistory.call call hown) hconsistent

/-- The world `w` is left by some calls of a new generator, the first made with the disk `d`. -/
def Reaches (g : Generator) (d : Disk) (w : World) : Prop :=
  ∃ calls, g.afterAll calls { disk := d } = w

theorem Reaches.exists_history (hw : g.Reaches d w) :
    ∃ attempts, g.History d attempts w ∧ g.Consistent attempts w := by
  obtain ⟨calls, rfl⟩ := hw
  exact History.start.exists_afterAll (consistent_start g d) calls

theorem Reaches.counted (hw : g.Reaches d w) : Counted w := by
  obtain ⟨calls, rfl⟩ := hw
  exact keeps_afterAll Effect.counted calls fun root => by simp

theorem exec_writeCommon_of_written {written : List Path}
    (hcommon : (g.writeCommon out).exec w = (.ok written, w')) (hwritten : written ≠ []) :
    w'.ready.any out.same = true := by
  rcases exec_writeCommon_cases g out w with
    ⟨-, hexec⟩ | ⟨-, d', -, hexec⟩ | ⟨-, _, _, _, _, e, -, -, -, hexec⟩
  · rw [hexec] at hcommon
    obtain ⟨hnone, -⟩ := Prod.mk.inj hcommon
    exact absurd (Except.ok.inj hnone).symm hwritten
  · rw [hexec] at hcommon
    obtain ⟨-, rfl⟩ := Prod.mk.inj hcommon
    exact ready_of_exec_writeCommon hexec
  · rw [hexec] at hcommon
    simp at hcommon

/-- A generator writes the support files of a root once and first, whatever calls are made and
whatever writes are refused. The calls come to attempts to write; those that succeed are reported
and leave a disk that holds the file. A root is ready when all support files were written into it,
and no attempt is made to write another file below it before. One call for the root at most gives
paths; a call that fails leaves the root as ready as it was. -/
theorem supportFiles_once_and_first (g : Generator) (d : Disk) (w : World) (hw : g.Reaches d w) :
    (∃ attempts, g.History d attempts w ∧
      (∀ a ∈ attempts, a.succeeds = true →
        a.after.read a.path = .ok (encode a.file.contents)) ∧
      (∀ root : Path, w.ready.any root.same = true ↔ g.Completed attempts root) ∧
      g.SupportFirst [] attempts) ∧
    (∀ root : Path, w.events.countP (isLastSupport root) =
      if w.ready.any root.same then 1 else 0) ∧
    (∀ (out root : Path) (written : List Path) (w' : World) (calls : List Call),
      (g.writeCommon out).exec w = (.ok written, w') → written ≠ [] → root.same out = true →
        (g.writeCommon root).exec (g.afterAll calls w') = (.ok [], g.afterAll calls w')) ∧
    (∀ (out : Path) (calls : List Call), w.ready.any out.same = true →
      (g.writeCommon out).exec (g.afterAll calls w) = (.ok [], g.afterAll calls w)) ∧
    ∀ out : Path, w.ready.any out.same = false →
      (∃ w', (g.writeCommon out).exec w =
          (.ok ((supportFiles g.runtimeModule).map fun file => out.join file.path), w') ∧
        w'.ready.any out.same = true ∧
        ∀ file ∈ supportFiles g.runtimeModule,
          w'.disk.read (out.join file.path) = .ok (encode file.contents)) ∨
      ∃ e w', (g.writeCommon out).exec w = (.error e, w') ∧ w'.ready = w.ready := by
  obtain ⟨attempts, hhistory, hconsistent⟩ := hw.exists_history
  refine ⟨⟨attempts, hhistory, ?_, fun root => hconsistent.ready_iff, hconsistent.first⟩,
    hw.counted, ?_, ?_, ?_⟩
  · intro a ha hsucceeds
    exact read_of_succeeds (hhistory.writes a ha) hsucceeds
  · intro out root written w' calls hcommon hwritten hsame
    have hready := exec_writeCommon_of_written hcommon hwritten
    rw [← same_eq_same hsame] at hready
    exact exec_writeCommon_of_ready g (keeps_afterAll Effect.ready_any calls hready)
  · intro out calls hready
    exact exec_writeCommon_of_ready g (keeps_afterAll Effect.ready_any calls hready)
  · intro out hready
    rcases exec_writeCommon_cases g out w with
      ⟨hready', -⟩ | ⟨-, d', hsaves, hexec⟩ | ⟨-, _, _, _, _, e, -, -, -, hexec⟩
    · rw [hready] at hready'
      simp at hready'
    · exact .inl ⟨_, hexec, ready_of_exec_writeCommon hexec, read_of_saveAll_supportFiles hsaves⟩
    · exact .inr ⟨e, _, hexec, rfl⟩

/-- A disk that stops in the middle of the second file. -/
def refusingDisk : Disk := { refusals := [none, some (.contents 5 .invalidArgument)] }

/-- The first call fails after one file; the second, for the same root, writes all. -/
def retryingCalls : List Call :=
  [.common ⟨"out"⟩, .lexicon (.ofObject "a.b.c") ⟨"out/"⟩]

theorem supportFiles_once_and_first_retrying :
    (((Generator.mk "Lexicon").afterAll [.common ⟨"out"⟩] { disk := refusingDisk }).disk.read
        ⟨"out/lexicon_xrpc.ex"⟩).toOption = some (encode "# @ge") ∧
      ((Generator.mk "Lexicon").afterAll retryingCalls { disk := refusingDisk }).events =
        [.wroteCommonFile ⟨"out/lexicon_tid.ex"⟩, .wroteCommonFile ⟨"out/lexicon_tid.ex"⟩,
          .wroteCommonFile ⟨"out/lexicon_xrpc.ex"⟩, .wroteFile ⟨"out/a/b/c/struct.ex"⟩,
          .generated "a.b.c" 1] ∧
      (∃ attempts, (Generator.mk "Lexicon").History refusingDisk attempts
          ((Generator.mk "Lexicon").afterAll retryingCalls { disk := refusingDisk }) ∧
        (Generator.mk "Lexicon").Completed attempts ⟨"out"⟩) ∧
      (((Generator.mk "Lexicon").writeCommon ⟨"out"⟩).exec
        ((Generator.mk "Lexicon").afterAll retryingCalls { disk := refusingDisk })).1 = .ok [] := by
  refine ⟨by decide +kernel, ?_⟩
  have hfacts : ((Generator.mk "Lexicon").afterAll retryingCalls { disk := refusingDisk }).events =
        [.wroteCommonFile ⟨"out/lexicon_tid.ex"⟩, .wroteCommonFile ⟨"out/lexicon_tid.ex"⟩,
          .wroteCommonFile ⟨"out/lexicon_xrpc.ex"⟩, .wroteFile ⟨"out/a/b/c/struct.ex"⟩,
          .generated "a.b.c" 1] ∧
      ((Generator.mk "Lexicon").afterAll retryingCalls { disk := refusingDisk }).ready.any
        (Path.same ⟨"out"⟩) = true := by
    decide +kernel
  -- What the calls come to is evaluated above; here the world they leave is only named.
  generalize hw : (Generator.mk "Lexicon").afterAll retryingCalls { disk := refusingDisk } = w
    at hfacts ⊢
  obtain ⟨⟨attempts, hhistory, -, hready, -⟩, -, -, hagain, -⟩ :=
    supportFiles_once_and_first (Generator.mk "Lexicon") refusingDisk w ⟨retryingCalls, hw⟩
  refine ⟨hfacts.1, ⟨attempts, hhistory, (hready ⟨"out"⟩).mp hfacts.2⟩, ?_⟩
  exact congrArg Prod.fst (hagain ⟨"out"⟩ [] hfacts.2)

end Calls

end Generator

end Lexgen
