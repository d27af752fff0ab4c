import Lexgen.Disk.Basic
import Lexgen.Proofs.Path.Components

namespace Lexgen

/-- The place that a piece of a path leads to. -/
def Place.move (here : Place) (piece : String) : Place :=
  if piece = "" ∨ piece = "." then here else if piece = ".." then here.dropLast else here ++ [piece]

/-- The pieces that lead to an entry of a directory, and not back to one that was passed. -/
def Place.IsEntry (piece : String) : Prop := piece ≠ "" ∧ piece ≠ "." ∧ piece ≠ ".."

instance (piece : String) : Decidable (Place.IsEntry piece) :=
  inferInstanceAs (Decidable (_ ∧ _ ∧ _))

theorem Place.move_of_isEntry {piece : String} (hentry : IsEntry piece) (here : Place) :
    move here piece = here ++ [piece] := by
  obtain ⟨hempty, hdot, hdots⟩ := hentry
  rw [move, if_neg (by simp [hempty, hdot]), if_neg hdots]

theorem Place.foldl_move_of_isEntry {names : List String} (hnames : ∀ name ∈ names, IsEntry name)
    (here : Place) : names.foldl move here = here ++ names := by
  induction names generalizing here with
  | nil => simp
  | cons name names ih =>
      rw [List.forall_mem_cons] at hnames
      rw [List.foldl_cons, move_of_isEntry hnames.1, ih hnames.2, List.append_assoc]
      rfl

/-- The places on a way, with the one it starts from and the one it leads to. -/
def Place.way (here : Place) (pieces : List String) : List Place := pieces.scanl move here

@[simp] theorem Place.way_nil (here : Place) : way here [] = [here] := rfl

@[simp] theorem Place.way_cons (here : Place) (piece : String) (rest : List String) :
    way here (piece :: rest) = here :: way (move here piece) rest :=
  List.scanl_cons

theorem Place.start_mem_way (here : Place) (pieces : List String) : here ∈ way here pieces := by
  cases pieces <;> simp

theorem Place.end_mem_way (here : Place) (pieces : List String) :
    pieces.foldl move here ∈ way here pieces := by
  induction pieces generalizing here with
  | nil => simp
  | cons piece rest ih => simpa using Or.inr (ih (move here piece))

theorem Place.mem_way_append {here : Place} {xs ys : List String} {q : Place} :
    q ∈ way here (xs ++ ys) ↔ q ∈ way here xs ∨ q ∈ way (xs.foldl move here) ys := by
  induction xs generalizing here with
  | nil =>
      have hstart : q = here → q ∈ way here ys := fun heq => heq ▸ start_mem_way here ys
      simpa using hstart
  | cons x xs ih => simp [ih, or_assoc]

theorem Place.eq_of_mem_way_idle {idle : List String}
    (hidle : ∀ piece ∈ idle, piece = "" ∨ piece = ".") {here q : Place} (hq : q ∈ way here idle) :
    q = here := by
  induction idle with
  | nil => simpa using hq
  | cons piece rest ih =>
      rw [List.forall_mem_cons] at hidle
      rw [way_cons, move, if_pos hidle.1, List.mem_cons] at hq
      exact hq.elim id (ih hidle.2)

/-- The place that a path leads to, whether or not something stands there. No entry of a tree is a
link to another place, so the path alone decides. -/
def Disk.place (d : Disk) (p : Path) : Place := p.pieces.foldl Place.move (d.origin p)

theorem Path.IsName.isEntry {name : String} (hname : IsName name) : Place.IsEntry name :=
  ⟨hname.ne_empty, hname.ne_dot, hname.ne_dots⟩

theorem Path.foldl_move_stem (p : Path) (here : Place) :
    p.stem.foldl Place.move here = p.pieces.foldl Place.move here := by
  rw [stem]
  split_ifs with hends
  · rcases hends with hempty | hslash
    · rw [pieces_of_text_eq_empty hempty]
      rfl
    · obtain ⟨s, htext⟩ := exists_text_of_getLast? hslash
      rw [pieces_of_trailing_slash htext, List.dropLast_concat, List.foldl_append]
      rfl
  · rfl

theorem Disk.origin_join (d : Disk) (p : Path) {q : Path} (hrelative : q.isAbsolute = false) :
    d.origin (p.join q) = d.origin p := by
  rw [origin, origin, Path.isAbsolute_join p hrelative]

theorem Disk.place_join_ofNames (d : Disk) (p : Path) {names : List String}
    (hnames : ∀ name ∈ names, Path.IsName name) (hne : names ≠ []) :
    d.place (p.join (Path.ofNames names)) = d.place p ++ names := by
  have hrelative := Path.isAbsolute_ofNames hnames
  rw [place, origin_join d p hrelative, Path.pieces_join p hrelative,
    Path.pieces_ofNames hnames hne, List.foldl_append, Path.foldl_move_stem,
    Place.foldl_move_of_isEntry fun name hname => (hnames name hname).isEntry]
  rfl

namespace FileTree

theorem lookup_update (place q : Place) (entry : Entry) (entries : List (Place × Entry)) :
    lookup q (update place entry entries) = if q = place then some entry else lookup q entries := by
  induction entries with
  | nil => simp [update, lookup, eq_comm]
  | cons e entries ih =>
      obtain ⟨p, e⟩ := e
      simp only [update, lookup]
      split_ifs <;> simp_all [lookup]

theorem get?_put {place : Place} (hplace : place ≠ []) (t : FileTree) (entry : Entry) (q : Place) :
    (t.put place entry).get? q = if q = place then some entry else t.get? q := by
  rw [get?, get?, put, lookup_update]
  by_cases hroot : q = []
  · subst hroot
    simp [hplace.symm]
  · simp [hroot]

/-- All places on a way are directories. -/
def IsOpen (t : FileTree) (here : Place) (pieces : List String) : Prop :=
  ∀ q ∈ Place.way here pieces, t.get? q = some .directory

theorem isOpen_nil_iff {t : FileTree} {here : Place} :
    t.IsOpen here [] ↔ t.get? here = some .directory := by
  simp [IsOpen]

theorem isOpen_cons_iff {t : FileTree} {here : Place} {piece : String} {rest : List String} :
    t.IsOpen here (piece :: rest) ↔
      t.get? here = some .directory ∧ t.IsOpen (Place.move here piece) rest := by
  simp [IsOpen]

/-- The tree with a directory made where a piece leads, if it leads to an entry that is missing. -/
def extend (t : FileTree) (here : Place) (piece : String) : FileTree :=
  if Place.IsEntry piece ∧ t.get? (here ++ [piece]) = none then t.put (here ++ [piece]) .directory
  else t

/-- The tree with the directories on a way made; nothing if something else is in the way. -/
def openWay : FileTree → Place → List String → Option FileTree
  | t, here, [] => if t.get? here = some .directory then some t else none
  | t, here, piece :: rest =>
    if t.get? here = some .directory then (t.extend here piece).openWay (Place.move here piece) rest
    else none

theorem openWay_nil_eq_some_iff {t t' : FileTree} {here : Place} :
    t.openWay here [] = some t' ↔ t.get? here = some .directory ∧ t = t' := by
  rw [openWay]
  split <;> simp [*]

theorem openWay_cons_eq_some_iff {t t' : FileTree} {here : Place} {piece : String}
    {rest : List String} :
    t.openWay here (piece :: rest) = some t' ↔
      t.get? here = some .directory ∧
        (t.extend here piece).openWay (Place.move here piece) rest = some t' := by
  rw [openWay]
  split <;> simp [*]

theorem get?_extend (t : FileTree) (here : Place) (piece : String) (q : Place) :
    (t.extend here piece).get? q =
      if q = here ++ [piece] ∧ Place.IsEntry piece ∧ t.get? q = none then some .directory
      else t.get? q := by
  rw [extend]
  by_cases hmissing : Place.IsEntry piece ∧ t.get? (here ++ [piece]) = none
  · rw [if_pos hmissing, get?_put (by simp)]
    by_cases hq : q = here ++ [piece]
    · subst hq
      simp [hmissing]
    · simp [hq]
  · rw [if_neg hmissing, if_neg]
    rintro ⟨rfl, hentry, hnone⟩
    exact hmissing ⟨hentry, hnone⟩

theorem extend_of_isSome {t : FileTree} {here : Place} {piece : String}
    (hsome : (t.get? (here ++ [piece])).isSome) : t.extend here piece = t := by
  rw [extend, if_neg]
  rintro ⟨-, hnone⟩
  simp [hnone] at hsome

theorem extend_of_not_isEntry {piece : String} (hentry : ¬ Place.IsEntry piece) (t : FileTree)
    (here : Place) : t.extend here piece = t := by
  rw [extend, if_neg (by simp [hentry])]

theorem IsOpen.extend {t : FileTree} {here : Place} {piece : String} {rest : List String}
    (hopen : t.IsOpen (Place.move here piece) rest) : t.extend here piece = t := by
  by_cases hentry : Place.IsEntry piece
  · refine extend_of_isSome ?_
    rw [← Place.move_of_isEntry hentry, hopen _ (Place.start_mem_way _ _)]
    rfl
  · exact extend_of_not_isEntry hentry t here

theorem IsOpen.openWay {t : FileTree} {here : Place} {pieces : List String}
    (hopen : t.IsOpen here pieces) : t.openWay here pieces = some t := by
  induction pieces generalizing here with
  | nil => rw [FileTree.openWay, if_pos (isOpen_nil_iff.mp hopen)]
  | cons piece rest ih =>
      obtain ⟨hhere, hrest⟩ := isOpen_cons_iff.mp hopen
      rw [FileTree.openWay, if_pos hhere, hrest.extend, ih hrest]

theorem get?_of_openWay {t t' : FileTree} {here : Place} {pieces : List String}
    (hway : t.openWay here pieces = some t') (q : Place) :
    t'.get? q = if q ∈ Place.way here pieces then some .directory else t.get? q := by
  induction pieces generalizing t here with
  | nil =>
      obtain ⟨hhere, rfl⟩ := openWay_nil_eq_some_iff.mp hway
      by_cases hq : q = here <;> simp_all
  | cons piece rest ih =>
      obtain ⟨hhere, hway⟩ := openWay_cons_eq_some_iff.mp hway
      rw [ih hway, get?_extend, Place.way_cons]
      by_cases hrest : q ∈ Place.way (Place.move here piece) rest
      · simp [hrest]
      · -- The directory that is made is on the rest of the way, so not at `q`.
        have hother : ¬ (q = here ++ [piece] ∧ Place.IsEntry piece ∧ t.get? q = none) := by
          rintro ⟨rfl, hentry, -⟩
          exact hrest (Place.move_of_isEntry hentry here ▸ Place.start_mem_way _ _)
        rw [if_neg hrest, if_neg hother]
        by_cases hq : q = here <;> simp_all

theorem isOpen_of_openWay {t t' : FileTree} {here : Place} {pieces : List String}
    (hway : t.openWay here pieces = some t') : t'.IsOpen here pieces := by
  intro q hq
  rw [get?_of_openWay hway, if_pos hq]

theorem openWay_append (t : FileTree) (here : Place) (xs ys : List String) :
    t.openWay here (xs ++ ys) =
      (t.openWay here xs).bind fun t' => t'.openWay (xs.foldl Place.move here) ys := by
  induction xs generalizing t here with
  | nil =>
      rw [List.nil_append, openWay]
      by_cases hhere : t.get? here = some .directory
      · simp [hhere]
      · cases ys <;> simp [openWay, hhere]
  | cons x xs ih =>
      rw [List.cons_append, openWay, openWay]
      by_cases hhere : t.get? here = some .directory
      · simp [hhere, ih]
      · simp [hhere]

theorem openWay_append_idle (t : FileTree) (here : Place) (pieces : List String)
    {idle : List String} (hidle : ∀ piece ∈ idle, piece = "" ∨ piece = ".") :
    t.openWay here (pieces ++ idle) = t.openWay here pieces := by
  rw [openWay_append]
  cases hway : t.openWay here pieces with
  | none => rfl
  | some t' =>
      have hend := isOpen_of_openWay hway _ (Place.end_mem_way here pieces)
      refine IsOpen.openWay fun q hq => ?_
      rw [Place.eq_of_mem_way_idle hidle hq]
      exact hend

end FileTree

end Lexgen
