import Lexgen.Proofs.Disk.Rewriting

namespace Lexgen

open Lexgen.Text

namespace FileTree

variable {t : FileTree} {place q : Place}

theorem namesBelow?_eq_some_iff {base place names : Place} :
    namesBelow? base place = some names ↔ names ≠ [] ∧ place = base ++ names := by
  fun_induction namesBelow? base place with
  | case1 => simp
  | case2 place hne =>
      simp only [Option.some.injEq, List.nil_append]
      constructor
      · rintro rfl
        exact ⟨hne, rfl⟩
      · exact fun h => h.2
  | case3 => simp
  | case4 a base place ih => simpa using ih
  | case5 a base b place hne => simp [Ne.symm hne]

theorem lookup_filter (keep : Place → Bool) (place : Place) (entries : List (Place × Entry)) :
    lookup place (entries.filter fun entry => keep entry.1) =
      if keep place then lookup place entries else none := by
  induction entries with
  | nil => simp [lookup]
  | cons entry entries ih =>
      obtain ⟨p, e⟩ := entry
      by_cases hp : p = place
      · subst hp
        by_cases hkeep : keep p = true <;> simp_all [lookup]
      · by_cases hkeep : keep p = true <;> simp_all [lookup]

theorem get?_eraseAt (t : FileTree) (place : Place) {q : Place} (hq : q ≠ []) :
    (t.eraseAt place).get? q = if place <+: q then none else t.get? q := by
  have hlookup : (t.eraseAt place).get? q =
      if q != place then if (namesBelow? place q).isNone then t.get? q else none else none := by
    have hbelow : lookup q (t.eraseBelow place).entries = _ :=
      lookup_filter (fun p => (namesBelow? place p).isNone) q t.entries
    have hat : lookup q (t.eraseAt place).entries = _ := lookup_filter (· != place) q _
    rw [get?, get?, if_neg hq, if_neg hq, hat, hbelow]
  have hinside : place <+: q ↔ q = place ∨ (namesBelow? place q).isSome = true := by
    rw [Option.isSome_iff_exists]
    constructor
    · rintro ⟨names, rfl⟩
      by_cases hnames : names = []
      · exact .inl (by simp [hnames])
      · exact .inr ⟨names, namesBelow?_eq_some_iff.mpr ⟨hnames, rfl⟩⟩
    · rintro (rfl | ⟨names, hnames⟩)
      · exact List.prefix_refl q
      · obtain ⟨-, rfl⟩ := namesBelow?_eq_some_iff.mp hnames
        exact List.prefix_append place names
  rw [hlookup]
  by_cases hplace : q = place
  · simp [hplace]
  · cases hnames : namesBelow? place q <;> simp [hinside, hplace, hnames]

/-- What stands in something stands in a directory. -/
def Connected (t : FileTree) : Prop :=
  ∀ place name, t.get? (place ++ [name]) ≠ none → t.get? place = some .directory

theorem mem_of_lookup {entries : List (Place × Entry)} (hlookup : lookup place entries ≠ none) :
    place ∈ entries.map Prod.fst := by
  induction entries with
  | nil => exact absurd rfl hlookup
  | cons entry entries ih =>
      obtain ⟨p, e⟩ := entry
      rw [lookup] at hlookup
      rw [List.map_cons, List.mem_cons]
      split at hlookup
      · exact .inl (Eq.symm ‹_›)
      · exact .inr (ih hlookup)

theorem connected_of_entries
    (hentries : ∀ p ∈ t.entries.map Prod.fst, t.get? p.dropLast = some .directory) :
    t.Connected := by
  intro place name hentry
  rw [get?, if_neg (by simp)] at hentry
  simpa using hentries _ (mem_of_lookup hentry)

theorem Connected.directory (hconnected : t.Connected) {names : List String} (hnames : names ≠ [])
    (hq : t.get? (place ++ names) ≠ none) : t.get? place = some .directory := by
  induction names using List.reverseRecOn with
  | nil => exact absurd rfl hnames
  | append_singleton names name ih =>
      rw [← List.append_assoc] at hq
      have hdirectory := hconnected _ name hq
      by_cases hnil : names = []
      · simpa [hnil] using hdirectory
      · exact ih hnil (by simp [hdirectory])

theorem Connected.directory_of_prefix (hconnected : t.Connected) (hinside : place <+: q)
    (hq : t.get? q = some .directory) : t.get? place = some .directory := by
  obtain ⟨names, rfl⟩ := hinside
  by_cases hnames : names = []
  · simpa [hnames] using hq
  · exact hconnected.directory hnames (by simp [hq])

theorem prefix_foldl_move {here : Place} {pieces : List String} (hpieces : ".." ∉ pieces) :
    here <+: pieces.foldl Place.move here := by
  induction pieces generalizing here with
  | nil => exact List.prefix_refl here
  | cons piece rest ih =>
      rw [List.mem_cons, not_or] at hpieces
      have hmove : here <+: Place.move here piece := by
        rw [Place.move, if_neg (Ne.symm hpieces.1)]
        split
        · exact List.prefix_refl here
        · exact List.prefix_append here [piece]
      exact hmove.trans (ih hpieces.2)

theorem Connected.walk (hconnected : t.Connected) {here : Place} {pieces : List String}
    (hpieces : ".." ∉ pieces) (hend : t.get? (pieces.foldl Place.move here) = some .directory) :
    Disk.walk t here pieces = .ok (pieces.foldl Place.move here) := by
  induction pieces generalizing here with
  | nil => rfl
  | cons piece rest ih =>
      have hrest : ".." ∉ rest := fun hmem => hpieces (List.mem_cons_of_mem _ hmem)
      have hhere := hconnected.directory_of_prefix (prefix_foldl_move hpieces) hend
      have hnext := hconnected.directory_of_prefix (prefix_foldl_move hrest) hend
      rw [Disk.walk_cons, hhere]
      show (if _ then _ else _) = _
      rw [if_neg, ih hrest hend]
      · rfl
      · rintro ⟨hentry, hmissing⟩
        rw [Place.move_of_isEntry hentry, hmissing] at hnext
        simp at hnext

end FileTree

namespace Disk

variable {d d' : Disk} {out p : Path} {file : SourceFile} {files : List SourceFile} {q : Place}

def HasFile (d : Disk) (q : Place) : Prop := ∃ contents, d.tree.get? q = some (.file contents)

theorem hasFile_of_save (hlies : file.LiesBelow) (hsave : d.save out file = some d') :
    d'.HasFile q ↔ d.HasFile q ∨ d.place (out.join file.path) = q := by
  have htarget := hlies.place_ne_nil d out
  obtain ⟨directories, name, hlies⟩ := hlies
  obtain ⟨-, t, hdeposit, rfl⟩ := (save_eq_some_iff hlies).mp hsave
  constructor
  · rintro ⟨contents, hq⟩
    rw [FileTree.get?_of_deposit htarget hdeposit] at hq
    split at hq
    · exact .inr (Eq.symm ‹_›)
    · split at hq
      · simp at hq
      · exact .inl ⟨contents, hq⟩
  · rintro (⟨contents, hq⟩ | rfl)
    · exact ⟨_, FileTree.file_of_deposit htarget hdeposit hq⟩
    · exact ⟨_, by rw [FileTree.get?_of_deposit htarget hdeposit, if_pos rfl]⟩

theorem hasFile_of_saveAll (hlies : ∀ file ∈ files, file.LiesBelow)
    (hsaves : saveAll out d files = some d') :
    d'.HasFile q ↔ d.HasFile q ∨ ∃ file ∈ files, d.place (out.join file.path) = q := by
  induction files generalizing d with
  | nil =>
      obtain rfl := Option.some.inj hsaves
      simp
  | cons file files ih =>
      rw [List.forall_mem_cons] at hlies
      obtain ⟨d₁, hfirst, hrest⟩ := saveAll_cons_eq_some_iff.mp hsaves
      rw [ih hlies.2 hrest, hasFile_of_save hlies.1 hfirst]
      simp only [place_of_save hlies.1 hfirst, List.mem_cons, exists_eq_or_imp, or_assoc]

theorem eq_of_locate_eq_ok {place : Place} (hlocate : d.locate p = .ok place) :
    place = d.place p := by
  rw [locate] at hlocate
  split at hlocate
  · simp at hlocate
  · exact eq_of_walk_eq_ok hlocate

theorem removeDirectory_cases (d : Disk) (p : Path) :
    (∃ fault, d.locate p = .error fault ∧ d.removeDirectory p = (d, .error fault)) ∨
      (∃ place, d.locate p = .ok place) ∧
        (d.removeDirectory p = ({ d with tree := d.tree.eraseAt (d.place p) }, .ok ()) ∨
          ∃ d' fault, d.removeDirectory p = (d', .error fault) ∧ fault ≠ .notFound) := by
  rw [removeDirectory]
  rcases hlocate : d.locate p with fault | place
  · exact .inl ⟨fault, rfl, rfl⟩
  · refine .inr ⟨⟨place, rfl⟩, ?_⟩
    obtain rfl := eq_of_locate_eq_ok hlocate
    dsimp only
    split
    · split
      · exact .inr ⟨_, _, rfl, by simp⟩
      · exact .inr ⟨_, _, rfl, by simp⟩
      · exact .inl rfl
    · exact .inr ⟨_, _, rfl, by simp⟩

/-- If a file lies below the directory that a path leads to, the path finds the directory. -/
def Finds (d : Disk) (p : Path) : Prop :=
  ∀ names, names ≠ [] → d.HasFile (d.place p ++ names) → ∃ place, d.locate p = .ok place

theorem finds_of_connected (hconnected : d.tree.Connected) (htext : p.text ≠ "")
    (hpieces : ".." ∉ p.pieces) : d.Finds p := by
  rintro names hnames ⟨contents, hfile⟩
  have hdirectory : d.tree.get? (d.place p) = some .directory :=
    hconnected.directory hnames (by simp [hfile])
  rw [locate, if_neg htext]
  exact ⟨d.place p, hconnected.walk hpieces hdirectory⟩

end Disk

end Lexgen
