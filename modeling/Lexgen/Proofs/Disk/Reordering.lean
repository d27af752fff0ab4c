import Lexgen.Proofs.Disk.Writing
import Lexgen.Proofs.Lexicon.OutputPaths

/-!
Files written below one root can be written in any order. If writing them in one order succeeds, so
does writing them in another, and the same entry stands at every place afterwards, provided that the
contents agree wherever two of them go to one place. A file that is read and not written to keeps
its contents.
-/

namespace Lexgen

open Lexgen.Text

namespace FileTree

variable {t t' t₁ t₂ : FileTree} {here target : Place} {pieces : List String} {contents : Bytes}

theorem not_file_of_openWay (hway : t.openWay here pieces = some t₁) {q : Place}
    (hq : q ∈ Place.way here pieces) : t.get? q ≠ some (.file contents) := by
  induction pieces generalizing t here with
  | nil =>
      obtain rfl : q = here := by simpa using hq
      simp [(openWay_nil_eq_some_iff.mp hway).1]
  | cons piece rest ih =>
      obtain ⟨hhere, hway⟩ := openWay_cons_eq_some_iff.mp hway
      rw [Place.way_cons, List.mem_cons] at hq
      rcases hq with rfl | hq
      · simp [hhere]
      · intro hfile
        refine ih hway hq ?_
        rw [get?_extend, if_neg (by simp [hfile]), hfile]

theorem not_file_extend (t : FileTree) (here : Place) (piece : String) {q : Place}
    (hfile : t.get? q ≠ some (.file contents)) :
    (t.extend here piece).get? q ≠ some (.file contents) := by
  rw [get?_extend]
  split
  · simp
  · exact hfile

theorem exists_openWay_of_le (hway : t.openWay here pieces = some t₁)
    (hdirectories : ∀ q, t.get? q = some .directory → t'.get? q = some .directory)
    (hfiles : ∀ q ∈ Place.way here pieces, ∀ contents, t'.get? q ≠ some (.file contents)) :
    ∃ t₁', t'.openWay here pieces = some t₁' := by
  induction pieces generalizing t t' here with
  | nil =>
      obtain ⟨hhere, rfl⟩ := openWay_nil_eq_some_iff.mp hway
      exact ⟨t', if_pos (hdirectories here hhere)⟩
  | cons piece rest ih =>
      obtain ⟨hhere, hway⟩ := openWay_cons_eq_some_iff.mp hway
      rw [Place.way_cons, List.forall_mem_cons] at hfiles
      rw [openWay, if_pos (hdirectories here hhere)]
      refine ih hway ?_ ?_
      · intro q hq
        rw [get?_extend] at hq ⊢
        split at hq
        · -- The directory made in the first tree: the second has it, or it is made there too.
          rename_i hmade
          obtain ⟨rfl, hentry, -⟩ := hmade
          have hfile := hfiles.2 _ (Place.start_mem_way _ _)
          rw [Place.move_of_isEntry hentry] at hfile
          rcases hnow : t'.get? (here ++ [piece]) with _ | _ | _ <;> simp_all
        · rw [if_neg (by simp [hdirectories q hq]), hdirectories q hq]
      · intro q hq contents
        exact not_file_extend t' here piece (hfiles.2 q hq contents)

theorem exists_openWay_of_names {names : List String} (hnames : ∀ name ∈ names, Place.IsEntry name)
    (hhere : t.get? here = some .directory)
    (hfiles : ∀ q ∈ Place.way here names, ∀ contents, t.get? q ≠ some (.file contents)) :
    ∃ t₁, t.openWay here names = some t₁ := by
  induction names generalizing t here with
  | nil => exact ⟨t, if_pos hhere⟩
  | cons name names ih =>
      rw [List.forall_mem_cons] at hnames
      rw [Place.way_cons, List.forall_mem_cons] at hfiles
      rw [openWay, if_pos hhere]
      refine ih hnames.2 ?_ ?_
      · have hfile := hfiles.2 _ (Place.start_mem_way _ _)
        rw [Place.move_of_isEntry hnames.1] at hfile ⊢
        rw [get?_extend]
        rcases hnow : t.get? (here ++ [name]) with _ | _ | _ <;> simp_all
      · intro q hq contents
        exact not_file_extend t here name (hfiles.2 q hq contents)

/-- The tree with the directories on a way made and a file put at a place; nothing if some other
entry is in the way. -/
def deposit (t : FileTree) (here : Place) (pieces : List String) (target : Place)
    (contents : Bytes) : Option FileTree :=
  (t.openWay here pieces).bind fun t' =>
    if t'.get? target = some .directory then none else some (t'.put target (.file contents))

theorem exists_deposit_iff :
    (∃ t', t.deposit here pieces target contents = some t') ↔
      (∃ t₁, t.openWay here pieces = some t₁) ∧ target ∉ Place.way here pieces ∧
        t.get? target ≠ some .directory := by
  rw [deposit]
  rcases hway : t.openWay here pieces with _ | t₁
  · simp
  · have htarget := get?_of_openWay hway target
    by_cases hmem : target ∈ Place.way here pieces <;> simp_all

theorem get?_of_deposit (htarget : target ≠ [])
    (hdeposit : t.deposit here pieces target contents = some t') (q : Place) :
    t'.get? q =
      if q = target then some (.file contents)
      else if q ∈ Place.way here pieces then some .directory else t.get? q := by
  obtain ⟨t₁, hway, hput⟩ := Option.bind_eq_some_iff.mp hdeposit
  split at hput
  · simp at hput
  · obtain rfl := Option.some.inj hput
    rw [get?_put htarget, get?_of_openWay hway]

section Deposits

variable {stem names names' : List String} {target' : Place} {contents' : Bytes}

theorem directory_of_deposit (htarget : target ≠ [])
    (hdeposit : t.deposit here pieces target contents = some t') {q : Place}
    (hq : t.get? q = some .directory) : t'.get? q = some .directory := by
  have hother : q ≠ target := by
    rintro rfl
    exact (exists_deposit_iff.mp ⟨t', hdeposit⟩).2.2 hq
  rw [get?_of_deposit htarget hdeposit, if_neg hother, hq, ite_self]

theorem file_of_deposit (htarget : target ≠ [])
    (hdeposit : t.deposit here pieces target contents = some t') {q : Place}
    (hq : t.get? q = some (.file contents')) :
    t'.get? q = some (.file (if q = target then contents else contents')) := by
  obtain ⟨⟨t₁, hway⟩, -⟩ := exists_deposit_iff.mp ⟨t', hdeposit⟩
  have hoff : q ∉ Place.way here pieces := fun hmem => not_file_of_openWay hway hmem hq
  rw [get?_of_deposit htarget hdeposit, if_neg hoff, hq]
  split <;> rfl

theorem exists_deposit_of_same (htarget : target ≠ []) (hsame : ∀ q, t.get? q = t'.get? q)
    (hdeposit : t.deposit here pieces target contents = some t₁) :
    ∃ t₁', t'.deposit here pieces target contents = some t₁' ∧ ∀ q, t₁.get? q = t₁'.get? q := by
  obtain ⟨⟨_, hway⟩, hoff, hfree⟩ := exists_deposit_iff.mp ⟨t₁, hdeposit⟩
  have hway' : ∃ t₂, t'.openWay here pieces = some t₂ := by
    refine exists_openWay_of_le hway ?_ ?_
    · intro q hq
      rw [← hsame, hq]
    · intro q hq contents
      rw [← hsame]
      exact not_file_of_openWay hway hq
  rw [hsame] at hfree
  obtain ⟨t₁', hdeposit'⟩ := exists_deposit_iff.mpr ⟨hway', hoff, hfree⟩
  refine ⟨t₁', hdeposit', fun q => ?_⟩
  rw [get?_of_deposit htarget hdeposit, get?_of_deposit htarget hdeposit', hsame]

theorem exists_deposit_of_later (hnames : ∀ name ∈ names', Place.IsEntry name)
    (htarget : target ≠ [])
    (hfirst : t.deposit here (stem ++ names) target contents = some t₁)
    (hsecond : t₁.deposit here (stem ++ names') target' contents' = some t₂) :
    ∃ t₁', t.deposit here (stem ++ names') target' contents' = some t₁' := by
  obtain ⟨⟨_, hway⟩, -⟩ := exists_deposit_iff.mp ⟨t₁, hfirst⟩
  obtain ⟨⟨_, hway'⟩, hoff', hfree'⟩ := exists_deposit_iff.mp ⟨t₂, hsecond⟩
  rw [openWay_append] at hway
  obtain ⟨a, hstem, -⟩ := Option.bind_eq_some_iff.mp hway
  have hfree : t.get? target' ≠ some .directory :=
    fun hq => hfree' (directory_of_deposit htarget hfirst hq)
  refine exists_deposit_iff.mpr ⟨?_, hoff', hfree⟩
  rw [openWay_append, hstem]
  refine exists_openWay_of_names hnames (isOpen_of_openWay hstem _ (Place.end_mem_way _ _)) ?_
  intro q hq contents hfile
  rw [get?_of_openWay hstem] at hfile
  split at hfile
  · simp at hfile
  · exact not_file_of_openWay hway' (Place.mem_way_append.mpr (.inr hq))
      (file_of_deposit htarget hfirst hfile)

/-- Two deposits below one stem that succeed one after the other succeed the other way round, with
the same entries in the end. -/
theorem exists_deposit_comm (hnames : ∀ name ∈ names', Place.IsEntry name) (htarget : target ≠ [])
    (htarget' : target' ≠ []) (hagree : target = target' → contents = contents')
    (hfirst : t.deposit here (stem ++ names) target contents = some t₁)
    (hsecond : t₁.deposit here (stem ++ names') target' contents' = some t₂) :
    ∃ t₁' t₂', t.deposit here (stem ++ names') target' contents' = some t₁' ∧
      t₁'.deposit here (stem ++ names) target contents = some t₂' ∧
        ∀ q, t₂.get? q = t₂'.get? q := by
  obtain ⟨⟨_, hway⟩, hoff, hfree⟩ := exists_deposit_iff.mp ⟨t₁, hfirst⟩
  obtain ⟨⟨_, hway'⟩, hoff', hfree'⟩ := exists_deposit_iff.mp ⟨t₂, hsecond⟩
  obtain ⟨t₁', hfirst'⟩ := exists_deposit_of_later hnames htarget hfirst hsecond
  -- Neither file lies on the way to the other: the first is a file when the second way is made, and
  -- the places on the first way are directories by then.
  have hcross : target ∉ Place.way here (stem ++ names') := by
    intro hmem
    have hfile : t₁.get? target = some (.file contents) := by
      rw [get?_of_deposit htarget hfirst, if_pos rfl]
    exact not_file_of_openWay hway' hmem hfile
  have hcross' : target' ∉ Place.way here (stem ++ names) := by
    intro hmem
    refine hfree' ?_
    rw [get?_of_deposit htarget hfirst, if_pos hmem, if_neg]
    rintro rfl
    exact hoff hmem
  have hsecond' : ∃ t₂', t₁'.deposit here (stem ++ names) target contents = some t₂' := by
    refine exists_deposit_iff.mpr ⟨?_, hoff, ?_⟩
    · refine exists_openWay_of_le hway (fun q => directory_of_deposit htarget' hfirst') ?_
      intro q hq contents hfile
      rw [get?_of_deposit htarget' hfirst'] at hfile
      split at hfile
      · rename_i heq
        exact hcross' (heq ▸ hq)
      · split at hfile
        · simp at hfile
        · exact not_file_of_openWay hway hq hfile
    · rw [get?_of_deposit htarget' hfirst', if_neg hcross]
      split
      · simp
      · exact hfree
  obtain ⟨t₂', hsecond'⟩ := hsecond'
  refine ⟨t₁', t₂', hfirst', hsecond', fun q => ?_⟩
  rw [get?_of_deposit htarget' hsecond, get?_of_deposit htarget hfirst,
    get?_of_deposit htarget hsecond', get?_of_deposit htarget' hfirst']
  by_cases hq : q = target
  · subst hq
    by_cases hq' : q = target'
    · rw [if_pos hq', if_pos rfl, hagree hq']
    · rw [if_neg hq', if_neg hcross, if_pos rfl, if_pos rfl]
  · by_cases hq' : q = target'
    · subst hq'
      rw [if_pos rfl, if_neg hq, if_neg hcross', if_pos rfl]
    · rw [if_neg hq, if_neg hq', if_neg hq, if_neg hq']
      split <;> split <;> rfl

end Deposits

end FileTree

/-- A file lies somewhere below the output root. -/
def SourceFile.LiesBelow (file : SourceFile) : Prop :=
  ∃ directories name, file.LiesAt directories name

theorem SourceFile.LiesBelow.place_ne_nil {file : SourceFile} (hlies : file.LiesBelow) (d : Disk)
    (out : Path) : d.place (out.join file.path) ≠ [] := by
  obtain ⟨directories, name, hlies⟩ := hlies
  rw [hlies.place_join]
  simp

theorem SourceFile.LiesBelow.path_eq {file file' : SourceFile} (hlies : file.LiesBelow)
    (hlies' : file'.LiesBelow) {d : Disk} {out : Path}
    (hplace : d.place (out.join file.path) = d.place (out.join file'.path)) :
    file.path = file'.path := by
  obtain ⟨directories, name, hlies⟩ := hlies
  obtain ⟨directories', name', hlies'⟩ := hlies'
  rw [hlies.place_join, hlies'.place_join, List.append_assoc, List.append_assoc] at hplace
  rw [hlies.path, hlies'.path, List.append_cancel_left hplace]

section Pieces

variable {file : SourceFile} {directories : List String} {name : String}

theorem SourceFile.LiesAt.isAbsolute_path (hlies : file.LiesAt directories name) :
    file.path.isAbsolute = false := by
  rw [hlies.path, Path.isAbsolute_ofNames hlies.names]

theorem SourceFile.LiesAt.pieces_join (hlies : file.LiesAt directories name) (out : Path) :
    (out.join file.path).pieces = out.stem ++ directories ++ [name] := by
  rw [Path.pieces_join out hlies.isAbsolute_path, hlies.path,
    Path.pieces_ofNames hlies.names (by simp), List.append_assoc]

end Pieces

namespace Disk

variable {d d' d₁ d₂ e : Disk} {out p : Path} {file file' : SourceFile}

/-- Nothing tells two disks apart: the same entry stands at every place, and they go on alike. -/
structure Alike (d e : Disk) : Prop where
  tree : ∀ q, d.tree.get? q = e.tree.get? q
  workingDirectory : d.workingDirectory = e.workingDirectory
  refusals : d.refusals = e.refusals

theorem Alike.refl (d : Disk) : d.Alike d := ⟨fun _ => rfl, rfl, rfl⟩

theorem Alike.trans (hleft : d.Alike d₁) (hright : d₁.Alike d₂) : d.Alike d₂ where
  tree q := (hleft.tree q).trans (hright.tree q)
  workingDirectory := hleft.workingDirectory.trans hright.workingDirectory
  refusals := hleft.refusals.trans hright.refusals

theorem Alike.origin (halike : d.Alike e) (p : Path) : d.origin p = e.origin p := by
  rw [Disk.origin, Disk.origin, halike.workingDirectory]

theorem Alike.place (halike : d.Alike e) (p : Path) : d.place p = e.place p := by
  rw [Disk.place, Disk.place, halike.origin]

/-- The disk after a file is written below a root; nothing if the write fails. -/
def save (d : Disk) (out : Path) (file : SourceFile) : Option Disk :=
  match d.writeFile (out.join file.path) (encode file.contents) with
  | (d', .ok _) => some d'
  | (_, .error _) => none

/-- The disk after files are written below a root, one after the other. -/
def saveAll (out : Path) : Disk → List SourceFile → Option Disk
  | d, [] => some d
  | d, file :: files => (d.save out file).bind fun d' => saveAll out d' files

theorem save_eq_some_iff_writeFile :
    d.save out file = some d' ↔
      d.writeFile (out.join file.path) (encode file.contents) = (d', .ok ()) := by
  rw [save]
  rcases d.writeFile (out.join file.path) (encode file.contents) with ⟨d₁, _ | _⟩ <;> simp

theorem save_eq_some_iff {directories : List String} {name : String}
    (hlies : file.LiesAt directories name) :
    d.save out file = some d' ↔
      (∀ refusal, d.refusals.head? ≠ some (some refusal)) ∧
      ∃ t, d.tree.deposit (d.origin out) (out.stem ++ directories) (d.place (out.join file.path))
          (encode file.contents) = some t ∧
        { d with tree := t, refusals := d.refusals.tail } = d' := by
  have hrelative := hlies.isAbsolute_path
  have hpieces := hlies.pieces_join out
  have hentry : Place.IsEntry name := (hlies.names name (by simp)).isEntry
  rw [save_eq_some_iff_writeFile, writeFile_eq_ok_iff hpieces hentry, d.origin_join out hrelative]
  simp only [FileTree.deposit, Option.bind_eq_some_iff]
  constructor
  · rintro ⟨haccepts, t, hway, hfree, rfl⟩
    exact ⟨haccepts, _, ⟨t, hway, if_neg hfree⟩, rfl⟩
  · rintro ⟨haccepts, _, ⟨t, hway, hput⟩, rfl⟩
    split at hput
    · simp at hput
    · obtain rfl := Option.some.inj hput
      exact ⟨haccepts, t, hway, ‹_›, rfl⟩

theorem workingDirectory_of_save (hlies : file.LiesBelow) (hsave : d.save out file = some d') :
    d'.workingDirectory = d.workingDirectory := by
  obtain ⟨directories, name, hlies⟩ := hlies
  obtain ⟨-, _, -, rfl⟩ := (save_eq_some_iff hlies).mp hsave
  rfl

theorem place_congr (hworking : d'.workingDirectory = d.workingDirectory) (p : Path) :
    d'.place p = d.place p := by
  rw [place, place, origin, origin, hworking]

theorem place_of_save (hlies : file.LiesBelow) (hsave : d.save out file = some d') (p : Path) :
    d'.place p = d.place p :=
  place_congr (workingDirectory_of_save hlies hsave) p

theorem Alike.exists_save (halike : d.Alike e) (hlies : file.LiesBelow)
    (hsave : d.save out file = some d') : ∃ e', e.save out file = some e' ∧ d'.Alike e' := by
  have hplace := hlies.place_ne_nil d out
  obtain ⟨directories, name, hlies⟩ := hlies
  obtain ⟨haccepts, t, hdeposit, rfl⟩ := (save_eq_some_iff hlies).mp hsave
  obtain ⟨t', hdeposit', hsame⟩ := FileTree.exists_deposit_of_same hplace halike.tree hdeposit
  rw [halike.origin, halike.place] at hdeposit'
  rw [halike.refusals] at haccepts
  exact ⟨_, (save_eq_some_iff hlies).mpr ⟨haccepts, t', hdeposit', rfl⟩, hsame,
    halike.workingDirectory, by rw [halike.refusals]⟩

theorem exists_save_comm (hlies : file.LiesBelow) (hlies' : file'.LiesBelow)
    (hagree : file.path = file'.path → file.contents = file'.contents)
    (hfirst : d.save out file = some d₁) (hsecond : d₁.save out file' = some d₂) :
    ∃ d₁' d₂', d.save out file' = some d₁' ∧ d₁'.save out file = some d₂' ∧ d₂.Alike d₂' := by
  have hplace := hlies.place_ne_nil d out
  have hplace' := hlies'.place_ne_nil d out
  have hcontents : d.place (out.join file.path) = d.place (out.join file'.path) →
      encode file.contents = encode file'.contents :=
    fun hsame => congrArg encode (hagree (hlies.path_eq hlies' hsame))
  obtain ⟨directories, name, hlies⟩ := hlies
  obtain ⟨directories', name', hlies'⟩ := hlies'
  have hnames' : ∀ part ∈ directories', Place.IsEntry part :=
    fun part hpart => (hlies'.names part (by simp [hpart])).isEntry
  obtain ⟨haccepts, t₁, hdeposit, rfl⟩ := (save_eq_some_iff hlies).mp hfirst
  obtain ⟨haccepts', t₂, hdeposit', rfl⟩ := (save_eq_some_iff hlies').mp hsecond
  obtain ⟨t₁', t₂', hearlier, hlater, hsame⟩ :=
    FileTree.exists_deposit_comm hnames' hplace hplace' hcontents hdeposit hdeposit'
  exact ⟨_, _, (save_eq_some_iff hlies').mpr ⟨haccepts, t₁', hearlier, rfl⟩,
    (save_eq_some_iff hlies).mpr ⟨haccepts', t₂', hlater, rfl⟩, hsame, rfl, rfl⟩

section Files

variable {files files' : List SourceFile}

theorem saveAll_cons_eq_some_iff :
    saveAll out d (file :: files) = some d' ↔
      ∃ d₁, d.save out file = some d₁ ∧ saveAll out d₁ files = some d' :=
  Option.bind_eq_some_iff

theorem saveAll_append_eq_some_iff :
    saveAll out d (files ++ files') = some d' ↔
      ∃ d₁, saveAll out d files = some d₁ ∧ saveAll out d₁ files' = some d' := by
  induction files generalizing d with
  | nil => simp [saveAll]
  | cons file files ih =>
      simp only [List.cons_append, saveAll_cons_eq_some_iff, ih]
      constructor
      · rintro ⟨d₁, hfirst, d₂, hrest, hlater⟩
        exact ⟨d₂, ⟨d₁, hfirst, hrest⟩, hlater⟩
      · rintro ⟨d₂, ⟨d₁, hfirst, hrest⟩, hlater⟩
        exact ⟨d₁, hfirst, d₂, hrest, hlater⟩

theorem Alike.exists_saveAll (halike : d.Alike e) (hlies : ∀ file ∈ files, file.LiesBelow)
    (hsaves : saveAll out d files = some d') :
    ∃ e', saveAll out e files = some e' ∧ d'.Alike e' := by
  induction files generalizing d e with
  | nil =>
      obtain rfl := Option.some.inj hsaves
      exact ⟨e, rfl, halike⟩
  | cons file files ih =>
      rw [List.forall_mem_cons] at hlies
      obtain ⟨d₁, hfirst, hrest⟩ := saveAll_cons_eq_some_iff.mp hsaves
      obtain ⟨e₁, hfirst', halike₁⟩ := halike.exists_save hlies.1 hfirst
      obtain ⟨e', hrest', halike'⟩ := ih halike₁ hlies.2 hrest
      exact ⟨e', saveAll_cons_eq_some_iff.mpr ⟨e₁, hfirst', hrest'⟩, halike'⟩

theorem exists_saveAll_of_perm (hperm : files.Perm files')
    (hlies : ∀ file ∈ files, file.LiesBelow)
    (hagree : ∀ file ∈ files, ∀ file' ∈ files, file.path = file'.path →
      file.contents = file'.contents)
    (hsaves : saveAll out d files = some d') :
    ∃ d'', saveAll out d files' = some d'' ∧ d'.Alike d'' := by
  induction hperm generalizing d d' with
  | nil => exact ⟨d', hsaves, .refl d'⟩
  | cons file _ ih =>
      obtain ⟨d₁, hfirst, hrest⟩ := saveAll_cons_eq_some_iff.mp hsaves
      obtain ⟨d'', hrest', halike⟩ := ih (fun f hf => hlies f (List.mem_cons_of_mem _ hf))
        (fun f hf f' hf' => hagree f (List.mem_cons_of_mem _ hf) f' (List.mem_cons_of_mem _ hf'))
        hrest
      exact ⟨d'', saveAll_cons_eq_some_iff.mpr ⟨d₁, hfirst, hrest'⟩, halike⟩
  | swap file file' rest =>
      obtain ⟨d₁, hfirst, hsaves⟩ := saveAll_cons_eq_some_iff.mp hsaves
      obtain ⟨d₂, hsecond, hrest⟩ := saveAll_cons_eq_some_iff.mp hsaves
      obtain ⟨d₁', d₂', hfirst', hsecond', halike⟩ := exists_save_comm (hlies file' (by simp))
        (hlies file (by simp)) (hagree file' (by simp) file (by simp)) hfirst hsecond
      obtain ⟨d'', hrest', halike'⟩ := halike.exists_saveAll
        (fun f hf => hlies f (List.mem_cons_of_mem _ (List.mem_cons_of_mem _ hf))) hrest
      refine ⟨d'', saveAll_cons_eq_some_iff.mpr ⟨d₁', hfirst', ?_⟩, halike'⟩
      exact saveAll_cons_eq_some_iff.mpr ⟨d₂', hsecond', hrest'⟩
  | trans hleft _ ihleft ihright =>
      obtain ⟨d₁, hsaves₁, halike₁⟩ := ihleft hlies hagree hsaves
      obtain ⟨d₂, hsaves₂, halike₂⟩ := ihright
        (fun f hf => hlies f (hleft.mem_iff.mpr hf))
        (fun f hf f' hf' => hagree f (hleft.mem_iff.mpr hf) f' (hleft.mem_iff.mpr hf')) hsaves₁
      exact ⟨d₂, hsaves₂, halike₁.trans halike₂⟩

theorem place_of_saveAll (hlies : ∀ file ∈ files, file.LiesBelow)
    (hsaves : saveAll out d files = some d') (p : Path) : d'.place p = d.place p := by
  induction files generalizing d with
  | nil =>
      obtain rfl := Option.some.inj hsaves
      rfl
  | cons file files ih =>
      rw [List.forall_mem_cons] at hlies
      obtain ⟨d₁, hfirst, hrest⟩ := saveAll_cons_eq_some_iff.mp hsaves
      rw [ih hlies.2 hrest, place_of_save hlies.1 hfirst]

theorem get?_of_save (hlies : file.LiesBelow) (hsave : d.save out file = some d') :
    d'.tree.get? (d.place (out.join file.path)) = some (.file (encode file.contents)) := by
  have hplace := hlies.place_ne_nil d out
  obtain ⟨directories, name, hlies⟩ := hlies
  obtain ⟨-, t, hdeposit, rfl⟩ := (save_eq_some_iff hlies).mp hsave
  rw [FileTree.get?_of_deposit hplace hdeposit, if_pos rfl]

theorem get?_of_saveAll (hlies : ∀ file ∈ files, file.LiesBelow)
    (hagree : ∀ file ∈ files, ∀ file' ∈ files, file.path = file'.path →
      file.contents = file'.contents)
    (hsaves : saveAll out d files = some d') (hfile : file ∈ files) :
    d'.tree.get? (d.place (out.join file.path)) = some (.file (encode file.contents)) := by
  -- The file could as well have been the last one.
  obtain ⟨before, after, rfl⟩ := List.append_of_mem hfile
  have hperm : (before ++ file :: after).Perm (before ++ after ++ [file]) :=
    List.perm_middle.trans (List.perm_append_singleton file (before ++ after)).symm
  obtain ⟨d'', hsaves', halike⟩ := exists_saveAll_of_perm hperm hlies hagree hsaves
  obtain ⟨d₁, hothers, hlast⟩ := saveAll_append_eq_some_iff.mp hsaves'
  obtain ⟨d₂, hsave, hnil⟩ := saveAll_cons_eq_some_iff.mp hlast
  obtain rfl := Option.some.inj hnil
  have hothers' : ∀ f ∈ before ++ after, f.LiesBelow :=
    fun f hf => hlies f (hperm.mem_iff.mpr (List.mem_append_left _ hf))
  rw [halike.tree, ← place_of_saveAll hothers' hothers]
  exact get?_of_save (hlies file hfile) hsave

end Files

section Reading

variable {bytes : Bytes}

theorem walk_of_le {t t' : FileTree} {here place : Place} {pieces : List String}
    (hdirectories : ∀ q, t.get? q = some .directory → t'.get? q = some .directory)
    (hentries : ∀ q, t'.get? q = none → t.get? q = none)
    (hwalk : walk t here pieces = .ok place) : walk t' here pieces = .ok place := by
  induction pieces generalizing here with
  | nil => exact hwalk
  | cons piece rest ih =>
      rw [walk_cons] at hwalk ⊢
      split at hwalk
      · rename_i hhere
        split at hwalk
        · simp at hwalk
        · rename_i hthere
          simp only [hdirectories here hhere]
          rw [if_neg fun hmissing => hthere ⟨hmissing.1, hentries _ hmissing.2⟩]
          exact ih hwalk
      · simp at hwalk
      · simp at hwalk

theorem read_of_save (hlies : file.LiesBelow) (hsave : d.save out file = some d')
    (hread : d.read p = .ok bytes) (hapart : d.place p ≠ d.place (out.join file.path)) :
    d'.read p = .ok bytes := by
  have hplace := hlies.place_ne_nil d out
  obtain ⟨hlocate, hfile⟩ := read_eq_ok_iff.mp hread
  rw [read_eq_ok_iff, place_of_save hlies hsave]
  obtain ⟨directories, name, hlies⟩ := hlies
  obtain ⟨-, t, hdeposit, rfl⟩ := (save_eq_some_iff hlies).mp hsave
  refine ⟨?_, ?_⟩
  · rw [locate] at hlocate ⊢
    split at hlocate
    · simp at hlocate
    · rename_i htext
      rw [if_neg htext]
      refine walk_of_le (fun q => FileTree.directory_of_deposit hplace hdeposit) ?_ hlocate
      intro q hq
      rw [FileTree.get?_of_deposit hplace hdeposit] at hq
      split at hq
      · simp at hq
      · split at hq
        · simp at hq
        · exact hq
  · rw [FileTree.file_of_deposit hplace hdeposit hfile, if_neg hapart]

theorem read_of_saveAll {files : List SourceFile} (hlies : ∀ file ∈ files, file.LiesBelow)
    (hsaves : saveAll out d files = some d') (hread : d.read p = .ok bytes)
    (hapart : ∀ file ∈ files, d.place p ≠ d.place (out.join file.path)) :
    d'.read p = .ok bytes := by
  induction files generalizing d with
  | nil =>
      obtain rfl := Option.some.inj hsaves
      exact hread
  | cons file files ih =>
      rw [List.forall_mem_cons] at hlies hapart
      obtain ⟨d₁, hfirst, hrest⟩ := saveAll_cons_eq_some_iff.mp hsaves
      refine ih hlies.2 hrest (read_of_save hlies.1 hfirst hread hapart.1) ?_
      intro f hf
      rw [place_of_save hlies.1 hfirst, place_of_save hlies.1 hfirst]
      exact hapart.2 f hf

end Reading

end Disk

end Lexgen
