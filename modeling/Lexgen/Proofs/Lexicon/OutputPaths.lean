import Lexgen.Artifact
import Lexgen.Proofs.Disk.Ways
import Lexgen.Proofs.Nsid.Segments

namespace Lexgen

open Lexgen.Text

/-- Neither of two paths is the other or a directory around it. -/
def Path.Apart (p q : Path) : Prop :=
  ¬ p.components <+: q.components ∧ ¬ q.components <+: p.components

/-- A file lies below the output root in the given directories, under the given name. Its name has a
dot and the directories have none. -/
structure SourceFile.LiesAt (file : SourceFile) (directories : List String) (name : String) :
    Prop where
  path : file.path = Path.ofNames (directories ++ [name])
  names : ∀ part ∈ directories ++ [name], Path.IsName part
  directories_plain : ∀ part ∈ directories, '.' ∉ part.toList
  name_dotted : '.' ∈ name.toList

theorem Nsid.IsLabel.isName {segment : String} (hlabel : Nsid.IsLabel segment.toList) :
    Path.IsName segment where
  ne_empty hempty := hlabel.1 (by simp [hempty])
  ne_dot hdot := Nsid.dot_not_mem_of_isLabel hlabel (by simp [hdot])
  ne_dots hdots := Nsid.dot_not_mem_of_isLabel hlabel (by simp [hdots])
  no_slash hslash := absurd (hlabel.2 '/' hslash) (by decide)

theorem Nsid.isName_of_mem_segments {nsid segment : String} (haccepted : validate nsid = .ok ())
    (hsegment : segment ∈ segments '.' nsid) : Path.IsName segment :=
  (isLabel_of_mem_segments haccepted hsegment).isName

theorem Artifact.isName_fileName (artifact : Artifact) : Path.IsName artifact.fileName := by
  cases artifact <;> exact ⟨by decide, by decide, by decide, by decide⟩

theorem Artifact.dot_mem_fileName (artifact : Artifact) : '.' ∈ artifact.fileName.toList := by
  cases artifact <;> decide

theorem Artifact.fileName_injective {artifact artifact' : Artifact}
    (hname : artifact.fileName = artifact'.fileName) : artifact = artifact' := by
  cases artifact <;> cases artifact' <;> simp_all [fileName]

theorem Artifact.nodup_plan (lexicon : Lexicon) : (plan lexicon).Nodup := by
  simp only [plan]
  split_ifs <;> decide

theorem Lexicon.liesAt_artifact {lexicon : Lexicon}
    (haccepted : Nsid.validate lexicon.nsid = .ok ()) (artifact : Artifact) (contents : String) :
    SourceFile.LiesAt ⟨lexicon.directory.join ⟨artifact.fileName⟩, contents⟩
      (segments '.' lexicon.nsid) artifact.fileName where
  path := (Path.ofNames_concat _ _).symm
  names := by
    rw [List.forall_mem_append, List.forall_mem_singleton]
    exact ⟨fun _ hsegment => Nsid.isName_of_mem_segments haccepted hsegment,
      artifact.isName_fileName⟩
  directories_plain _ := not_mem_of_mem_segments
  name_dotted := artifact.dot_mem_fileName

theorem Lexicon.liesAt_of_mem_generate {lexicon : Lexicon} {runtimeModule : String}
    {file : SourceFile} (haccepted : Nsid.validate lexicon.nsid = .ok ())
    (hfile : file ∈ (lexicon.generate runtimeModule).1) :
    ∃ artifact : Artifact, file.LiesAt (segments '.' lexicon.nsid) artifact.fileName := by
  simp only [generate, List.mem_map, List.mem_filterMap] at hfile
  obtain ⟨_, ⟨artifact, -, hartifact⟩, rfl⟩ := hfile
  obtain ⟨_, -, rfl⟩ := Option.map_eq_some_iff.mp hartifact
  exact ⟨artifact, lexicon.liesAt_artifact haccepted artifact _⟩

theorem liesAt_root {name contents : String} (hname : Path.IsName name)
    (hdotted : '.' ∈ name.toList) : SourceFile.LiesAt ⟨⟨name⟩, contents⟩ [] name where
  path := by
    rw [List.nil_append, Path.ofNames, List.foldl_cons, List.foldl_nil, Path.join, hname.isAbsolute]
    simp
  names := by simpa using hname
  directories_plain := by simp
  name_dotted := hdotted

theorem liesAt_supportFiles (runtimeModule : String) :
    ∃ tidFile requestFile, supportFiles runtimeModule = [tidFile, requestFile] ∧
      tidFile.LiesAt [] "lexicon_tid.ex" ∧ requestFile.LiesAt [] "lexicon_xrpc.ex" := by
  have hname : Path.IsName "lexicon_tid.ex" := ⟨by decide, by decide, by decide, by decide⟩
  have hname' : Path.IsName "lexicon_xrpc.ex" := ⟨by decide, by decide, by decide, by decide⟩
  exact ⟨_, _, rfl, liesAt_root hname (by decide), liesAt_root hname' (by decide)⟩

theorem liesAt_of_mem_supportFiles {runtimeModule : String} {file : SourceFile}
    (hfile : file ∈ supportFiles runtimeModule) : ∃ name, file.LiesAt [] name := by
  obtain ⟨_, _, hfiles, htid, hrequest⟩ := liesAt_supportFiles runtimeModule
  rw [hfiles, List.mem_cons, List.mem_singleton] at hfile
  rcases hfile with rfl | rfl
  · exact ⟨_, htid⟩
  · exact ⟨_, hrequest⟩

namespace SourceFile

theorem LiesAt.components {file : SourceFile} {directories : List String} {name : String}
    (hlies : file.LiesAt directories name) :
    file.path.components = (directories ++ [name]).map .name := by
  rw [hlies.path, Path.components_ofNames hlies.names]

theorem LiesAt.components_join {file : SourceFile} {directories : List String} {name : String}
    (hlies : file.LiesAt directories name) (out : Path) :
    (out.join file.path).components = out.components ++ (directories ++ [name]).map .name := by
  have hnames : ∀ c ∈ file.path.components, ∃ part, c = .name part := by
    rw [hlies.components]
    intro c hc
    obtain ⟨part, -, rfl⟩ := List.mem_map.mp hc
    exact ⟨part, rfl⟩
  rw [Path.components_join out hnames, hlies.components]

theorem LiesAt.place_join {file : SourceFile} {directories : List String} {name : String}
    (hlies : file.LiesAt directories name) (d : Disk) (out : Path) :
    d.place (out.join file.path) = d.place out ++ directories ++ [name] := by
  rw [hlies.path, d.place_join_ofNames out hlies.names (by simp), List.append_assoc]

theorem eq_of_prefix {directories directories' : List String} {name name' : String}
    (hdirectories' : ∀ part ∈ directories', '.' ∉ part.toList) (hname : '.' ∈ name.toList)
    (hstarts : (directories ++ [name]).map Path.Component.name <+:
      (directories' ++ [name']).map Path.Component.name) :
    directories = directories' ∧ name = name' := by
  obtain ⟨rest, hrest⟩ := hstarts
  obtain ⟨firsts, lasts, hsplit, hfirsts, -⟩ := List.map_eq_append_iff.mp hrest.symm
  obtain rfl : firsts = directories ++ [name] :=
    (List.map_inj_right fun _ _ => Path.Component.name.inj).mp hfirsts
  rcases List.eq_nil_or_concat lasts with rfl | ⟨lasts, last, rfl⟩
  · rw [List.append_nil] at hsplit
    obtain ⟨hleft, hright⟩ := List.append_inj' hsplit rfl
    exact ⟨hleft.symm, (List.cons.inj hright).1.symm⟩
  · -- With something after it, the name with a dot would be one of the other's directories.
    rw [List.concat_eq_append, ← List.append_assoc] at hsplit
    have hmem : name ∈ directories' := by
      rw [(List.append_inj' hsplit rfl).1]
      simp
    exact absurd hname (hdirectories' name hmem)

theorem LiesAt.apart {file file' : SourceFile} {directories directories' : List String}
    {name name' : String} (hlies : file.LiesAt directories name)
    (hlies' : file'.LiesAt directories' name')
    (hne : ¬ (directories = directories' ∧ name = name')) : file.path.Apart file'.path := by
  rw [Path.Apart, hlies.components, hlies'.components]
  refine ⟨fun hstarts => hne ?_, fun hstarts => hne ?_⟩
  · exact eq_of_prefix hlies'.directories_plain hlies.name_dotted hstarts
  · obtain ⟨hsame, hsame'⟩ := eq_of_prefix hlies.directories_plain hlies'.name_dotted hstarts
    exact ⟨hsame.symm, hsame'.symm⟩

end SourceFile

namespace Lexicon

theorem pairwise_apart_generate {lexicon : Lexicon} (runtimeModule : String)
    (haccepted : Nsid.validate lexicon.nsid = .ok ()) :
    (lexicon.generate runtimeModule).1.Pairwise fun file file' => file.path.Apart file'.path := by
  simp only [generate]
  rw [List.pairwise_map, List.pairwise_filterMap]
  refine (Artifact.nodup_plan lexicon).imp fun {artifact artifact'} hne emitted hemitted emitted'
    hemitted' => ?_
  obtain ⟨_, -, rfl⟩ := Option.map_eq_some_iff.mp hemitted
  obtain ⟨_, -, rfl⟩ := Option.map_eq_some_iff.mp hemitted'
  exact (lexicon.liesAt_artifact haccepted artifact _).apart
    (lexicon.liesAt_artifact haccepted artifact' _)
    fun hsame => hne (Artifact.fileName_injective hsame.2)

theorem apart_of_nsid_ne {lexicon lexicon' : Lexicon} {runtimeModule : String}
    {file file' : SourceFile} (haccepted : Nsid.validate lexicon.nsid = .ok ())
    (haccepted' : Nsid.validate lexicon'.nsid = .ok ()) (hne : lexicon.nsid ≠ lexicon'.nsid)
    (hfile : file ∈ (lexicon.generate runtimeModule).1)
    (hfile' : file' ∈ (lexicon'.generate runtimeModule).1) : file.path.Apart file'.path := by
  obtain ⟨artifact, hlies⟩ := liesAt_of_mem_generate haccepted hfile
  obtain ⟨artifact', hlies'⟩ := liesAt_of_mem_generate haccepted' hfile'
  exact hlies.apart hlies' fun hsame => hne (segments_injective hsame.1)

end Lexicon

theorem pairwise_apart_supportFiles (runtimeModule : String) :
    (supportFiles runtimeModule).Pairwise fun file file' => file.path.Apart file'.path := by
  obtain ⟨_, _, hfiles, htid, hrequest⟩ := liesAt_supportFiles runtimeModule
  rw [hfiles, List.pairwise_pair]
  exact htid.apart hrequest (by decide)

theorem Lexicon.apart_supportFiles {lexicon : Lexicon} {runtimeModule : String}
    {file support : SourceFile} (haccepted : Nsid.validate lexicon.nsid = .ok ())
    (hfile : file ∈ (lexicon.generate runtimeModule).1)
    (hsupport : support ∈ supportFiles runtimeModule) : file.path.Apart support.path := by
  obtain ⟨artifact, hlies⟩ := liesAt_of_mem_generate haccepted hfile
  obtain ⟨name, hroot⟩ := liesAt_of_mem_supportFiles hsupport
  exact hlies.apart hroot fun hsame => segments_ne_nil '.' lexicon.nsid hsame.1

/-- The directory of an accepted NSID is relative and has the segments for its components, all of
them plain names. What is written for a lexicon stays below the output root, as a path and as a
place on any disk. The files of lexicons with different NSIDs and the support files all have
different paths, and none lies where another has a directory. -/
theorem generate_confined_and_apart (runtimeModule : String) :
    (∀ nsid, Nsid.validate nsid = .ok () →
      (Names.directory nsid).isAbsolute = false ∧
      (Names.directory nsid).components = (segments '.' nsid).map .name ∧
      ∀ segment ∈ segments '.' nsid, Path.IsName segment) ∧
    (∀ (lexicon : Lexicon) (file : SourceFile), Nsid.validate lexicon.nsid = .ok () →
      file ∈ (lexicon.generate runtimeModule).1 →
      ∃ names ≠ [], (∀ name ∈ names, Path.IsName name) ∧
        (∀ out : Path, (out.join file.path).components = out.components ++ names.map .name) ∧
        ∀ (d : Disk) (out : Path), d.place (out.join file.path) = d.place out ++ names) ∧
    ∀ lexicons : List Lexicon, (∀ lexicon ∈ lexicons, Nsid.validate lexicon.nsid = .ok ()) →
      (lexicons.map (·.nsid)).Nodup →
      (lexicons.flatMap (fun lexicon => (lexicon.generate runtimeModule).1) ++
        supportFiles runtimeModule).Pairwise fun file file' => file.path.Apart file'.path := by
  refine ⟨?_, ?_, ?_⟩
  · intro nsid haccepted
    have hnames : ∀ segment ∈ segments '.' nsid, Path.IsName segment :=
      fun _ => Nsid.isName_of_mem_segments haccepted
    exact ⟨Path.isAbsolute_ofNames hnames, Path.components_ofNames hnames, hnames⟩
  · intro lexicon file haccepted hfile
    obtain ⟨artifact, hlies⟩ := Lexicon.liesAt_of_mem_generate haccepted hfile
    refine ⟨segments '.' lexicon.nsid ++ [artifact.fileName], by simp, hlies.names,
      hlies.components_join, ?_⟩
    intro d out
    rw [hlies.place_join, List.append_assoc]
  · intro lexicons haccepted hdistinct
    rw [List.pairwise_append, List.pairwise_flatMap]
    refine ⟨⟨?_, ?_⟩, pairwise_apart_supportFiles runtimeModule, ?_⟩
    · intro lexicon hlexicon
      exact Lexicon.pairwise_apart_generate runtimeModule (haccepted lexicon hlexicon)
    · refine (List.pairwise_map.mp hdistinct).imp_of_mem ?_
      intro lexicon lexicon' hlexicon hlexicon' hne file hfile file' hfile'
      exact Lexicon.apart_of_nsid_ne (haccepted lexicon hlexicon) (haccepted lexicon' hlexicon') hne
        hfile hfile'
    · intro file hfile support hsupport
      obtain ⟨lexicon, hlexicon, hfile⟩ := List.mem_flatMap.mp hfile
      exact Lexicon.apart_supportFiles (haccepted lexicon hlexicon) hfile hsupport

/-- The lexicon of a document with one object. -/
def Lexicon.ofObject (id : String) : Lexicon :=
  (ofDocument { id, defs := [("main", .object [("type", .string "object")])] }).1

/-- Two lexicons of which one is named like a file of the other. -/
def lookalikes : List Lexicon :=
  [.ofObject "com.example.thing", .ofObject "com.example.thing.struct"]

theorem generate_confined_and_apart_lookalikes :
    (∀ lexicon ∈ lookalikes, Nsid.validate lexicon.nsid = .ok ()) ∧
      (lookalikes.map (·.nsid)).Nodup ∧
      lookalikes.flatMap (fun lexicon => (lexicon.generate "Lexicon").1.map (·.path)) =
        [⟨"com/example/thing/struct.ex"⟩, ⟨"com/example/thing/struct/struct.ex"⟩] ∧
      (lookalikes.flatMap (fun lexicon => (lexicon.generate "Lexicon").1) ++
        supportFiles "Lexicon").Pairwise (fun file file' => file.path.Apart file'.path) ∧
      (Names.directory "com.example.thing").components =
        [.name "com", .name "example", .name "thing"] ∧
      ∀ file ∈ ((Lexicon.ofObject "com.example.thing").generate "Lexicon").1,
        ∃ names ≠ [], ∀ d : Disk,
          d.place (Path.join ⟨"../out"⟩ file.path) = d.place ⟨"../out"⟩ ++ names := by
  have haccepted : ∀ lexicon ∈ lookalikes, Nsid.validate lexicon.nsid = .ok () := by
    decide +kernel
  have hdistinct : (lookalikes.map (·.nsid)).Nodup := by decide +kernel
  obtain ⟨hdirectory, hconfined, hapart⟩ := generate_confined_and_apart "Lexicon"
  have hcomponents := (hdirectory "com.example.thing" (by decide +kernel)).2.1
  refine ⟨haccepted, hdistinct, by decide +kernel, hapart lookalikes haccepted hdistinct,
    hcomponents.trans (by decide +kernel), ?_⟩
  intro file hfile
  obtain ⟨names, hne, -, -, hplace⟩ := hconfined _ file (haccepted _ List.mem_cons_self) hfile
  exact ⟨names, hne, fun d => hplace d ⟨"../out"⟩⟩

end Lexgen
