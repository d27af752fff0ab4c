import Lexgen.Proofs.Disk.Reordering

namespace Lexgen

open Lexgen.Text

namespace FileTree

variable {t t' u u' : FileTree} {here here' target target' : Place} {pieces pieces' : List String}
  {contents contents' : Bytes}

/-- The directories on a way are there, and so is a file at its end. -/
structure Holds (t : FileTree) (here : Place) (pieces : List String) (target : Place) : Prop where
  isOpen : t.IsOpen here pieces
  file : ∃ contents, t.get? target = some (.file contents)

theorem holds_of_deposit (htarget : target ≠ [])
    (hdeposit : t.deposit here pieces target contents = some t') : t'.Holds here pieces target := by
  obtain ⟨-, hoff, -⟩ := exists_deposit_iff.mp ⟨t', hdeposit⟩
  constructor
  · intro q hq
    have hother : q ≠ target := by
      rintro rfl
      exact hoff hq
    rw [get?_of_deposit htarget hdeposit, if_neg hother, if_pos hq]
  · exact ⟨contents, by rw [get?_of_deposit htarget hdeposit, if_pos rfl]⟩

theorem Holds.deposit (hholds : t.Holds here pieces target) (htarget' : target' ≠ [])
    (hdeposit : t.deposit here' pieces' target' contents' = some t') :
    t'.Holds here pieces target := by
  obtain ⟨contents, hfile⟩ := hholds.file
  exact ⟨fun q hq => directory_of_deposit htarget' hdeposit (hholds.isOpen q hq),
    _, file_of_deposit htarget' hdeposit hfile⟩

theorem Holds.exists_deposit (hholds : t.Holds here pieces target) (contents : Bytes) :
    ∃ t', t.deposit here pieces target contents = some t' := by
  obtain ⟨contents', hfile⟩ := hholds.file
  refine exists_deposit_iff.mpr ⟨⟨t, hholds.isOpen.openWay⟩, ?_, by simp [hfile]⟩
  intro hmem
  simp [hholds.isOpen target hmem] at hfile

end FileTree

namespace Disk

variable {d d' d₁ d'' e e' : Disk} {out : Path} {file file' : SourceFile} {files : List SourceFile}

/-- A file and the directories around it are there, whatever the file says. -/
def Holds (d : Disk) (out : Path) (file : SourceFile) : Prop :=
  ∃ directories name, file.LiesAt directories name ∧
    d.tree.Holds (d.origin out) (out.stem ++ directories) (d.place (out.join file.path))

/-- No write is refused from now on. -/
def Accepts (d : Disk) : Prop := ∀ refusal ∈ d.refusals, refusal = none

theorem origin_of_save (hlies : file.LiesBelow) (hsave : d.save out file = some d') (p : Path) :
    d'.origin p = d.origin p := by
  rw [origin, origin, workingDirectory_of_save hlies hsave]

theorem holds_of_save (hlies : file.LiesBelow) (hsave : d.save out file = some d') :
    d'.Holds out file := by
  have hplace := hlies.place_ne_nil d out
  rw [Holds, origin_of_save hlies hsave, place_of_save hlies hsave]
  obtain ⟨directories, name, hlies⟩ := hlies
  obtain ⟨-, t, hdeposit, rfl⟩ := (save_eq_some_iff hlies).mp hsave
  exact ⟨directories, name, hlies, FileTree.holds_of_deposit hplace hdeposit⟩

theorem Holds.save (hholds : d.Holds out file) (hlies : file'.LiesBelow)
    (hsave : d.save out file' = some d') : d'.Holds out file := by
  have hplace := hlies.place_ne_nil d out
  rw [Holds, origin_of_save hlies hsave, place_of_save hlies hsave]
  obtain ⟨directories, name, hat, hholds⟩ := hholds
  obtain ⟨directories', name', hlies⟩ := hlies
  obtain ⟨-, t, hdeposit, rfl⟩ := (save_eq_some_iff hlies).mp hsave
  exact ⟨directories, name, hat, hholds.deposit hplace hdeposit⟩

theorem keeps_of_saveAll {P : Disk → Prop}
    (hkeeps : ∀ file ∈ files, ∀ d d', P d → d.save out file = some d' → P d')
    (hsaves : saveAll out d files = some d') (hd : P d) : P d' := by
  induction files generalizing d with
  | nil =>
      obtain rfl := Option.some.inj hsaves
      exact hd
  | cons file files ih =>
      rw [List.forall_mem_cons] at hkeeps
      obtain ⟨d₁, hfirst, hrest⟩ := saveAll_cons_eq_some_iff.mp hsaves
      exact ih hkeeps.2 hrest (hkeeps.1 d d₁ hd hfirst)

theorem Holds.saveAll (hholds : d.Holds out file) (hlies : ∀ file ∈ files, file.LiesBelow)
    (hsaves : saveAll out d files = some d') : d'.Holds out file :=
  keeps_of_saveAll (P := (Holds · out file))
    (fun f hf _ _ hholds hsave => hholds.save (hlies f hf) hsave) hsaves hholds

theorem holds_of_saveAll (hlies : ∀ file ∈ files, file.LiesBelow)
    (hsaves : saveAll out d files = some d') : ∀ file ∈ files, d'.Holds out file := by
  induction files generalizing d with
  | nil => simp
  | cons file files ih =>
      rw [List.forall_mem_cons] at hlies ⊢
      obtain ⟨d₁, hfirst, hrest⟩ := saveAll_cons_eq_some_iff.mp hsaves
      exact ⟨(holds_of_save hlies.1 hfirst).saveAll hlies.2 hrest, ih hlies.2 hrest⟩

theorem Accepts.exists_save (haccepts : d.Accepts) (hholds : d.Holds out file) :
    ∃ d', d.save out file = some d' ∧ d'.Accepts := by
  obtain ⟨directories, name, hlies, hholds⟩ := hholds
  obtain ⟨t, hdeposit⟩ := hholds.exists_deposit (encode file.contents)
  refine ⟨_, (save_eq_some_iff hlies).mpr ⟨?_, t, hdeposit, rfl⟩, ?_⟩
  · intro fault hhead
    exact absurd (haccepts _ (List.mem_of_mem_head? hhead)) (by simp)
  · exact fun refusal hrefusal => haccepts refusal (List.mem_of_mem_tail hrefusal)

theorem Accepts.exists_saveAll (haccepts : d.Accepts) (hlies : ∀ file ∈ files, file.LiesBelow)
    (hholds : ∀ file ∈ files, d.Holds out file) : ∃ d', saveAll out d files = some d' := by
  induction files generalizing d with
  | nil => exact ⟨d, rfl⟩
  | cons file files ih =>
      rw [List.forall_mem_cons] at hlies hholds
      obtain ⟨d₁, hfirst, haccepts₁⟩ := haccepts.exists_save hholds.1
      obtain ⟨d', hrest⟩ := ih haccepts₁ hlies.2 fun f hf => (hholds.2 f hf).save hlies.1 hfirst
      exact ⟨d', saveAll_cons_eq_some_iff.mpr ⟨d₁, hfirst, hrest⟩⟩

theorem get?_save_congr (hlies : file.LiesBelow) (hsame : d.workingDirectory = e.workingDirectory)
    (hd : d.save out file = some d') (he : e.save out file = some e') {q : Place}
    (hq : d.place (out.join file.path) = q ∨ d.tree.get? q = e.tree.get? q) :
    d'.tree.get? q = e'.tree.get? q := by
  have hplace := place_congr hsame.symm
  have htarget := hlies.place_ne_nil d out
  obtain ⟨directories, name, hlies⟩ := hlies
  obtain ⟨-, t, hdeposit, rfl⟩ := (save_eq_some_iff hlies).mp hd
  obtain ⟨-, u, hdeposit', rfl⟩ := (save_eq_some_iff hlies).mp he
  rw [hplace, show e.origin out = d.origin out by rw [origin, origin, hsame]] at hdeposit'
  rw [FileTree.get?_of_deposit htarget hdeposit, FileTree.get?_of_deposit htarget hdeposit']
  rcases hq with rfl | hq
  · rw [if_pos rfl, if_pos rfl]
  · rw [hq]

theorem get?_saveAll_congr (hlies : ∀ file ∈ files, file.LiesBelow)
    (hsame : d.workingDirectory = e.workingDirectory) (hd : saveAll out d files = some d')
    (he : saveAll out e files = some e') {q : Place}
    (hq : (∃ file ∈ files, d.place (out.join file.path) = q) ∨ d.tree.get? q = e.tree.get? q) :
    d'.tree.get? q = e'.tree.get? q := by
  induction files generalizing d e with
  | nil =>
      obtain rfl := Option.some.inj hd
      obtain rfl := Option.some.inj he
      simpa using hq
  | cons file files ih =>
      rw [List.forall_mem_cons] at hlies
      obtain ⟨d₁, hfirst, hrest⟩ := saveAll_cons_eq_some_iff.mp hd
      obtain ⟨e₁, hfirst', hrest'⟩ := saveAll_cons_eq_some_iff.mp he
      apply ih hlies.2 _ hrest hrest'
      · rcases hq with ⟨file', hfile', hq⟩ | hq
        · rcases List.mem_cons.mp hfile' with rfl | hfile'
          · exact .inr (get?_save_congr hlies.1 hsame hfirst hfirst' (.inl hq))
          · exact .inl ⟨file', hfile', by rw [place_of_save hlies.1 hfirst, hq]⟩
        · exact .inr (get?_save_congr hlies.1 hsame hfirst hfirst' (.inr hq))
      · rw [workingDirectory_of_save hlies.1 hfirst, workingDirectory_of_save hlies.1 hfirst',
          hsame]

theorem workingDirectory_of_saveAll (hlies : ∀ file ∈ files, file.LiesBelow)
    (hsaves : saveAll out d files = some d') : d'.workingDirectory = d.workingDirectory :=
  keeps_of_saveAll (P := fun e => e.workingDirectory = d.workingDirectory)
    (fun f hf _ _ hsame hsave => (workingDirectory_of_save (hlies f hf) hsave).trans hsame)
    hsaves rfl

theorem directory_of_save (hlies : file.LiesBelow) (hsave : d.save out file = some d') {q : Place}
    (hq : d.tree.get? q = some .directory) : d'.tree.get? q = some .directory := by
  have htarget := hlies.place_ne_nil d out
  obtain ⟨directories, name, hlies⟩ := hlies
  obtain ⟨-, t, hdeposit, rfl⟩ := (save_eq_some_iff hlies).mp hsave
  exact FileTree.directory_of_deposit htarget hdeposit hq

theorem directory_of_saveAll (hlies : ∀ file ∈ files, file.LiesBelow)
    (hsaves : saveAll out d files = some d') {q : Place} (hq : d.tree.get? q = some .directory) :
    d'.tree.get? q = some .directory :=
  keeps_of_saveAll (P := fun e => e.tree.get? q = some .directory)
    (fun f hf _ _ hq hsave => directory_of_save (hlies f hf) hsave hq) hsaves hq

theorem get?_or_directory_of_saveAll (hlies : ∀ file ∈ files, file.LiesBelow)
    (hsaves : saveAll out d files = some d') {q : Place}
    (hq : ∀ file ∈ files, d.place (out.join file.path) ≠ q) :
    d'.tree.get? q = d.tree.get? q ∨ d'.tree.get? q = some .directory := by
  induction files generalizing d with
  | nil =>
      obtain rfl := Option.some.inj hsaves
      exact .inl rfl
  | cons file files ih =>
      rw [List.forall_mem_cons] at hlies hq
      obtain ⟨d₁, hfirst, hrest⟩ := saveAll_cons_eq_some_iff.mp hsaves
      have hstep : d₁.tree.get? q = d.tree.get? q ∨ d₁.tree.get? q = some .directory := by
        have htarget := hlies.1.place_ne_nil d out
        obtain ⟨directories, name, hat⟩ := hlies.1
        obtain ⟨-, t, hdeposit, rfl⟩ := (save_eq_some_iff hat).mp hfirst
        rw [FileTree.get?_of_deposit htarget hdeposit, if_neg (Ne.symm hq.1)]
        split
        · exact .inr rfl
        · exact .inl rfl
      rcases hstep with hstep | hstep
      · rw [← hstep]
        refine ih hlies.2 hrest fun f hf => ?_
        rw [place_of_save hlies.1 hfirst]
        exact hq.2 f hf
      · exact .inr (directory_of_saveAll hlies.2 hrest hstep)

/-- Files that were written are written again without a change. -/
theorem exists_saveAll_again (hlies : ∀ file ∈ files, file.LiesBelow)
    (hsaves : saveAll out d files = some d') (haccepts : d'.Accepts) :
    ∃ d'', saveAll out d' files = some d'' ∧ ∀ q, d''.tree.get? q = d'.tree.get? q := by
  obtain ⟨d'', hagain⟩ := haccepts.exists_saveAll hlies (holds_of_saveAll hlies hsaves)
  have hsame := workingDirectory_of_saveAll hlies hsaves
  refine ⟨d'', hagain, fun q => ?_⟩
  by_cases htarget : ∃ file ∈ files, d'.place (out.join file.path) = q
  · exact get?_saveAll_congr hlies hsame hagain hsaves (.inl htarget)
  · have hother : ∀ file ∈ files, d.place (out.join file.path) ≠ q := by
      intro file hfile hq
      exact htarget ⟨file, hfile, by rw [place_of_saveAll hlies hsaves, hq]⟩
    rcases get?_or_directory_of_saveAll hlies hsaves hother with hq | hq
    · exact get?_saveAll_congr hlies hsame hagain hsaves (.inr hq)
    · rw [hq, directory_of_saveAll hlies hagain hq]

end Disk

end Lexgen
