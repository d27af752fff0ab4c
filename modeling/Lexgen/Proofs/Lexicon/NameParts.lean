import Lexgen.Proofs.Document.AcceptedDocuments
import Lexgen.Proofs.Lexicon.OutputPaths
import Lexgen.Proofs.Names.UsableNames

namespace Lexgen

open Lexgen.Text

namespace Names

theorem titleCase_append (s t : String) :
    titleCase (s ++ "." ++ t) = titleCase s ++ "." ++ titleCase t := by
  have hsegments : segments '.' (s ++ "." ++ t) = segments '.' s ++ segments '.' t :=
    segments_append '.' s t
  have hs : (segments '.' s).map titleCase ≠ [] := by simpa using segments_ne_nil '.' s
  have ht : (segments '.' t).map titleCase ≠ [] := by simpa using segments_ne_nil '.' t
  rw [titleCase_eq_intercalate, hsegments, List.map_append,
    String.intercalate_append_of_ne_nil hs ht, ← titleCase_eq_intercalate,
    ← titleCase_eq_intercalate]

theorem titleCase_of_no_dot {segment : String} (hdot : '.' ∉ segment.toList) :
    titleCase segment = String.join ((segments '-' segment).map capitalize) := by
  apply String.toList_inj.mp
  rw [toList_titleCase hdot, String.toList_join, titleSegment, segments, List.map_map,
    List.flatMap_map]
  simp [capitalize]

section Cut

variable {nsid : String}

theorem splitNsid_of_dot (hdot : '.' ∈ nsid.toList) :
    nsid = (splitNsid nsid).1 ++ "." ++ (splitNsid nsid).2 ∧
      '.' ∉ (splitNsid nsid).2.toList := by
  rw [splitNsid]
  cases hcut : cutLast '.' nsid.toList with
  | none => exact absurd hdot (not_mem_of_cutLast_eq_none hcut)
  | some cut =>
      obtain ⟨hafter, hchars⟩ := of_cutLast_eq_some hcut
      refine ⟨String.toList_inj.mp ?_, by simpa using hafter⟩
      rw [hchars]
      simp

theorem titleCase_eq_splitNsid (hdot : '.' ∈ nsid.toList) :
    titleCase nsid = titleCase (splitNsid nsid).1 ++ "." ++ titleCase (splitNsid nsid).2 := by
  calc titleCase nsid
    _ = titleCase ((splitNsid nsid).1 ++ "." ++ (splitNsid nsid).2) :=
      congrArg titleCase (splitNsid_of_dot hdot).1
    _ = titleCase (splitNsid nsid).1 ++ "." ++ titleCase (splitNsid nsid).2 :=
      titleCase_append _ _

theorem name_ne_empty_of_validate (haccepted : Nsid.validate nsid = .ok ()) :
    (splitNsid nsid).2 ≠ "" := by
  obtain ⟨⟨c, hhead, -⟩, -⟩ := name_of_validate haccepted
  intro hempty
  rw [hempty] at hhead
  exact absurd hhead nofun

theorem titleCase_name_of_validate (haccepted : Nsid.validate nsid = .ok ()) :
    titleCase (splitNsid nsid).2 = capitalize (splitNsid nsid).2 := by
  have hletters := (name_of_validate haccepted).2
  have hdot : '.' ∉ (splitNsid nsid).2.toList := fun hmem => absurd (hletters _ hmem) (by decide)
  have hhyphen : '-' ∉ (splitNsid nsid).2.toList :=
    fun hmem => absurd (hletters _ hmem) (by decide)
  rw [titleCase_of_no_dot hdot, segments_of_not_mem hhyphen]
  simp

end Cut

end Names

theorem Nsid.dot_mem_of_validate {nsid : String} (haccepted : validate nsid = .ok ()) :
    '.' ∈ nsid.toList := by
  by_contra hdot
  have hlength := (splitOn_of_validate haccepted).1
  rw [List.splitOn_eq_singleton hdot] at hlength
  simp at hlength

/-- The text of a component as it stands in a path. -/
def Path.Component.text : Component → String
  | .root => "/"
  | .here => "."
  | .up => ".."
  | .name text => text

theorem Names.intercalate_components_directory {nsid : String}
    (haccepted : Nsid.validate nsid = .ok ()) :
    ".".intercalate ((directory nsid).components.map Path.Component.text) = nsid := by
  have hcomponents : (directory nsid).components = (segments '.' nsid).map .name :=
    Path.components_ofNames fun _ => Nsid.isName_of_mem_segments haccepted
  have htexts : (segments '.' nsid).map (Path.Component.text ∘ .name) = segments '.' nsid :=
    List.map_id _
  rw [hcomponents, List.map_map, htexts]
  exact intercalate_segments '.' nsid

namespace Lexicon

/-- The names of the lexicon of an accepted document fit together. The NSID is its domain, a dot and
its name, which is not empty and has no dot; the same holds in title case, which capitalizes the
pieces between dots and hyphens and drops the hyphens. The module of a definition is named by the
NSID in title case and the key, and the components of the directory spell the NSID. -/
theorem name_parts_coherent {doc : Document} (haccepted : doc.IsAccepted) :
    let l := (ofDocument doc).1
    l.nsid = doc.id ∧
    l.nsid = l.domain ++ "." ++ l.name ∧ l.name ≠ "" ∧ '.' ∉ l.name.toList ∧
    l.titleNsid = l.titleDomain ++ "." ++ l.titleName ∧ l.titleName = capitalize l.name ∧
    (segments '.' l.titleNsid = (segments '.' l.nsid).map fun segment =>
      String.join ((segments '-' segment).map capitalize)) ∧
    (∀ key, l.moduleName key = l.titleNsid ++ "." ++ capitalize key) ∧
    ".".intercalate (l.directory.components.map Path.Component.text) = l.nsid := by
  intro l
  have hnsid : Nsid.validate doc.id = .ok () := haccepted.validate
  have hdot : '.' ∈ doc.id.toList := Nsid.dot_mem_of_validate hnsid
  obtain ⟨hsplit, hname⟩ := Names.splitNsid_of_dot hdot
  -- By definition the fields are the NSID, the two sides of its cut, and these in title case.
  refine ⟨rfl, hsplit, Names.name_ne_empty_of_validate hnsid, hname,
    Names.titleCase_eq_splitNsid hdot, Names.titleCase_name_of_validate hnsid, ?_, fun _ => rfl,
    Names.intercalate_components_directory hnsid⟩
  refine (Names.segments_titleCase doc.id).trans (List.map_congr_left fun segment hsegment => ?_)
  exact Names.titleCase_of_no_dot (not_mem_of_mem_segments hsegment)

/-- A document whose NSID has hyphens and capitals. -/
def hyphened : Document := { id := "org.my-host.v2.getURL" }

theorem name_parts_coherent_hyphened :
    hyphened.IsAccepted ∧
      (ofDocument hyphened).1.domain = "org.my-host.v2" ∧
      (ofDocument hyphened).1.name = "getURL" ∧
      (ofDocument hyphened).1.titleNsid = "Org.MyHost.V2" ++ "." ++ "GetURL" ∧
      (ofDocument hyphened).1.moduleName "main" = "Org.MyHost.V2.GetURL" ++ "." ++ "Main" ∧
      ".".intercalate ((ofDocument hyphened).1.directory.components.map Path.Component.text) =
        "org.my-host.v2.getURL" := by
  have haccepted : hyphened.IsAccepted := .inr ⟨hyphened.toJson, rfl⟩
  obtain ⟨hnsid, -, -, -, htitle, -, -, hmodule, hdirectory⟩ := name_parts_coherent haccepted
  exact ⟨haccepted, by decide +kernel, by decide +kernel, htitle.trans (by decide +kernel),
    (hmodule "main").trans (by decide +kernel), hdirectory.trans hnsid⟩

end Lexicon

end Lexgen
