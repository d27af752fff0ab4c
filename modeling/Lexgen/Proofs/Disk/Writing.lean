import Lexgen.Proofs.Disk.Ways
import Lexgen.Proofs.Path.Ancestors

/-!
What writing a file does to a disk. The directories around the file are tried from the innermost to
the outermost and made on the way back; that comes to opening the way from the outside. So a write
that succeeds makes the way to the file's directory and puts the file there, and it fails only if
some other entry is in the way.
-/

namespace Lexgen.Disk

open Lexgen.Text

variable {t : FileTree} {here : Place} {pieces : List String}

theorem walk_cons (t : FileTree) (here : Place) (piece : String) (rest : List String) :
    walk t here (piece :: rest) =
      match t.get? here with
      | some .directory =>
        if Place.IsEntry piece ∧ t.get? (here ++ [piece]) = none then .error .notFound
        else walk t (Place.move here piece) rest
      | some (.file _) => .error .notDirectory
      | none => .error .notFound := by
  rw [walk]
  cases t.get? here with
  | none => rfl
  | some entry =>
      cases entry with
      | file contents => rfl
      | directory =>
          simp only [Place.IsEntry, Place.move]
          by_cases hidle : piece = "" ∨ piece = "."
          · rcases hidle with rfl | rfl <;> simp
          · rw [if_neg hidle]
            rw [not_or] at hidle
            by_cases hdots : piece = ".."
            · simp [hdots]
            · cases t.get? (here ++ [piece]) <;> simp [hidle, hdots]

theorem eq_of_walk_eq_ok {place : Place} (hwalk : walk t here pieces = .ok place) :
    place = pieces.foldl Place.move here := by
  induction pieces generalizing here with
  | nil => exact (Except.ok.inj hwalk).symm
  | cons piece rest ih =>
      rw [walk_cons] at hwalk
      split at hwalk
      · split at hwalk
        · simp at hwalk
        · exact ih hwalk
      · simp at hwalk
      · simp at hwalk

theorem walk_of_isOpen (hopen : t.IsOpen here pieces) :
    walk t here pieces = .ok (pieces.foldl Place.move here) := by
  induction pieces generalizing here with
  | nil => rfl
  | cons piece rest ih =>
      obtain ⟨hhere, hrest⟩ := FileTree.isOpen_cons_iff.mp hopen
      have hnext : ¬ (Place.IsEntry piece ∧ t.get? (here ++ [piece]) = none) := by
        rintro ⟨hentry, hnone⟩
        rw [← Place.move_of_isEntry hentry, hrest _ (Place.start_mem_way _ _)] at hnone
        simp at hnone
      rw [walk_cons, hhere]
      simp only [if_neg hnext]
      exact ih hrest

theorem walk_append (t : FileTree) (here : Place) (xs ys : List String) :
    walk t here (xs ++ ys) = walk t here xs >>= fun place => walk t place ys := by
  induction xs generalizing here with
  | nil => rfl
  | cons x xs ih =>
      rw [List.cons_append, walk_cons, walk_cons]
      cases t.get? here with
      | none => rfl
      | some entry =>
          cases entry with
          | file contents => rfl
          | directory =>
              simp only
              split_ifs
              · rfl
              · exact ih (Place.move here x)

theorem isOpen_of_walk_append {piece : String} {place : Place}
    (hwalk : walk t here (pieces ++ [piece]) = .ok place) : t.IsOpen here pieces := by
  induction pieces generalizing here with
  | nil =>
      rw [List.nil_append, walk_cons] at hwalk
      rw [FileTree.isOpen_nil_iff]
      split at hwalk
      · assumption
      · simp at hwalk
      · simp at hwalk
  | cons x xs ih =>
      rw [List.cons_append, walk_cons] at hwalk
      split at hwalk
      · split at hwalk
        · simp at hwalk
        · exact FileTree.isOpen_cons_iff.mpr ⟨‹_›, ih hwalk⟩
      · simp at hwalk
      · simp at hwalk

theorem walk_dot_of_isOpen (hopen : t.IsOpen here pieces) :
    walk t here (pieces ++ ["."]) = .ok (pieces.foldl Place.move here) := by
  have hend := hopen _ (Place.end_mem_way here pieces)
  rw [walk_append, walk_of_isOpen hopen]
  change walk t _ ["."] = _
  rw [walk_cons, hend]
  rfl

theorem openWay_eq_none_of_walk {fault : DiskFault}
    (hwalk : walk t here (pieces ++ ["."]) = .error fault) (hfault : fault ≠ .notFound) :
    t.openWay here pieces = none := by
  induction pieces generalizing here with
  | nil =>
      rw [List.nil_append, walk_cons] at hwalk
      rw [FileTree.openWay, if_neg]
      intro hhere
      rw [hhere] at hwalk
      simp [walk, Place.IsEntry] at hwalk
  | cons piece rest ih =>
      rw [List.cons_append, walk_cons] at hwalk
      rw [FileTree.openWay]
      split at hwalk
      · rename_i hhere
        split at hwalk
        · exact absurd (Except.error.inj hwalk).symm hfault
        · rename_i hnext
          rw [if_pos hhere, FileTree.extend, if_neg hnext]
          exact ih hwalk
      · rename_i hhere
        simp [hhere]
      · exact absurd (Except.error.inj hwalk).symm hfault

variable {d d' : Disk} {p : Path} {front : List String} {last : String}

theorem text_ne_empty_of_pieces (hpieces : p.pieces = front ++ [last]) (hlast : last ≠ "") :
    p.text ≠ "" := by
  intro hempty
  rw [Path.pieces_of_text_eq_empty hempty] at hpieces
  have hgetLast := congrArg List.getLast? hpieces
  simp only [List.getLast?_singleton, List.getLast?_append, Option.some_or,
    Option.some.injEq] at hgetLast
  exact hlast hgetLast.symm

theorem isDirectory_iff (hne : p.text ≠ "") :
    d.isDirectory p = true ↔ d.tree.IsOpen (d.origin p) p.pieces := by
  rw [isDirectory, beq_iff_eq, entry?, locate, if_neg hne]
  constructor
  · intro hentry
    cases hwalk : walk d.tree (d.origin p) p.pieces with
    | error fault => simp [hwalk] at hentry
    | ok place =>
        simp only [hwalk] at hentry
        have hdot : walk d.tree (d.origin p) (p.pieces ++ ["."]) = .ok place := by
          rw [walk_append, hwalk]
          change walk d.tree place ["."] = _
          rw [walk_cons, hentry]
          rfl
        exact isOpen_of_walk_append hdot
  · intro hopen
    rw [walk_of_isOpen hopen]
    exact hopen _ (Place.end_mem_way _ _)

theorem newPlace_of_pieces (d : Disk) (hpieces : p.pieces = front ++ [last]) (hlast : last ≠ "") :
    d.newPlace p = walk d.tree (d.origin p) (front ++ ["."]) >>= fun parent =>
      if last = "." ∨ last = ".." ∨ (d.tree.get? (parent ++ [last])).isSome then
        .error .alreadyExists
      else .ok (parent ++ [last]) := by
  have hreverse : p.pieces.reverse.dropWhile (· = "") = last :: front.reverse := by
    simp [hpieces, hlast]
  rw [newPlace, if_neg (text_ne_empty_of_pieces hpieces hlast), hreverse, walk_append]
  simp only [List.reverse_reverse, bind_assoc]

theorem makeDirectory_of_isOpen (hpieces : p.pieces = front ++ [last]) (hlast : last ≠ "")
    (hopen : d.tree.IsOpen (d.origin p) front) :
    d.makeDirectory p =
      if Place.IsEntry last ∧
          d.tree.get? (front.foldl Place.move (d.origin p) ++ [last]) = none then
        .ok { d with tree := d.tree.put (front.foldl Place.move (d.origin p) ++ [last]) .directory }
      else .error .alreadyExists := by
  rw [makeDirectory, newPlace_of_pieces d hpieces hlast, walk_dot_of_isOpen hopen]
  change (if _ then Except.error _ else Except.ok _) >>= _ = _
  by_cases hdot : last = "."
  · simp [hdot, Place.IsEntry, bind, Except.bind]
  · by_cases hdots : last = ".."
    · simp [hdots, Place.IsEntry, bind, Except.bind]
    · cases d.tree.get? (front.foldl Place.move (d.origin p) ++ [last]) <;>
        simp [hlast, hdot, hdots, Place.IsEntry, bind, Except.bind, pure, Except.pure]

theorem isDirectory_concat_iff (hpieces : p.pieces = front ++ [last]) (hlast : last ≠ "")
    (hopen : d.tree.IsOpen (d.origin p) front) :
    d.isDirectory p = true ↔
      d.tree.get? (Place.move (front.foldl Place.move (d.origin p)) last) = some .directory := by
  rw [isDirectory_iff (text_ne_empty_of_pieces hpieces hlast), hpieces]
  constructor
  · intro hall
    simpa using hall _ (Place.end_mem_way _ _)
  · intro hdirectory q hq
    rcases Place.mem_way_append.mp hq with hq | hq
    · exact hopen q hq
    · rw [Place.way_cons, Place.way_nil, List.mem_cons, List.mem_singleton] at hq
      rcases hq with rfl | rfl
      · exact hopen _ (Place.end_mem_way _ _)
      · exact hdirectory

theorem settle_makeDirectory_eq_ok_iff (hpieces : p.pieces = front ++ [last]) (hlast : last ≠ "")
    (hopen : d.tree.IsOpen (d.origin p) front) :
    makeDirectories.settle d p (d.makeDirectory p) = (d', .ok ()) ↔
      ∃ t, d.tree.openWay (d.origin p) (front ++ [last]) = some t ∧ { d with tree := t } = d' := by
  have hend := hopen _ (Place.end_mem_way _ _)
  have hdirectory := isDirectory_concat_iff hpieces hlast hopen
  rw [makeDirectory_of_isOpen hpieces hlast hopen, FileTree.openWay_append, hopen.openWay,
    Option.bind_some, FileTree.openWay, if_pos hend, FileTree.openWay, FileTree.get?_extend]
  by_cases hnew : Place.IsEntry last ∧
      d.tree.get? (front.foldl Place.move (d.origin p) ++ [last]) = none
  · have hmove := Place.move_of_isEntry hnew.1 (front.foldl Place.move (d.origin p))
    rw [if_pos hnew, hmove, if_pos (if_pos ⟨rfl, hnew⟩), FileTree.extend, if_pos hnew]
    simp [makeDirectories.settle]
  · have hold : ¬ (Place.move (front.foldl Place.move (d.origin p)) last =
        front.foldl Place.move (d.origin p) ++ [last] ∧ Place.IsEntry last ∧
        d.tree.get? (Place.move (front.foldl Place.move (d.origin p)) last) = none) := by
      rintro ⟨hmove, hentry, hnone⟩
      exact hnew ⟨hentry, hmove ▸ hnone⟩
    rw [if_neg hnew, if_neg hold, FileTree.extend, if_neg hnew]
    by_cases hfound : d.isDirectory p = true
    · rw [if_pos (hdirectory.mp hfound)]
      simp [makeDirectories.settle, hfound]
    · rw [if_neg (mt hdirectory.mpr hfound)]
      simp [makeDirectories.settle, hfound]

theorem settle_error_of_not_isOpen (hpieces : p.pieces = front ++ [last]) (hlast : last ≠ "")
    (hclosed : ¬ d.tree.IsOpen (d.origin p) front) (fault : DiskFault) :
    makeDirectories.settle d p (.error fault) = (d, .error fault) := by
  have hnot : ¬ d.isDirectory p = true := by
    rw [isDirectory_iff (text_ne_empty_of_pieces hpieces hlast), hpieces]
    exact fun hopen => hclosed fun q hq => hopen q (Place.mem_way_append.mpr (.inl hq))
  simp [makeDirectories.settle, hnot]

theorem exists_walk_error (hclosed : ¬ t.IsOpen here pieces) :
    ∃ fault, walk t here (pieces ++ ["."]) = .error fault := by
  cases hwalk : walk t here (pieces ++ ["."]) with
  | error fault => exact ⟨fault, rfl⟩
  | ok place => exact absurd (isOpen_of_walk_append hwalk) hclosed

theorem makeDirectories_root (d : Disk) (around : List Path) :
    d.makeDirectories (⟨"/"⟩ :: around) = (d, .ok ()) := by
  have hdirectory : d.isDirectory ⟨"/"⟩ = true := by
    rw [isDirectory_iff (by decide)]
    intro q hq
    obtain rfl : q = [] := by
      have hroot : Place.way (d.origin ⟨"/"⟩) (Path.pieces ⟨"/"⟩) = [[], [], []] := rfl
      simpa [hroot] using hq
    rfl
  have hmake : d.makeDirectory ⟨"/"⟩ = .error .alreadyExists := rfl
  rw [makeDirectories, if_neg (by decide), hmake]
  simp [makeDirectories.settle, hdirectory]

theorem origin_of_isAbsolute_eq {q : Path} (d : Disk) (hsame : q.isAbsolute = p.isAbsolute) :
    d.origin q = d.origin p := by
  rw [origin, origin, hsame]

theorem openWay_trim (hne : pieces ≠ []) (t : FileTree) (here : Place) :
    t.openWay here (Path.trim pieces) = t.openWay here pieces := by
  obtain ⟨idle, hsplit, hidle, -⟩ := Path.trim_spec hne
  conv_rhs => rw [hsplit]
  exact (FileTree.openWay_append_idle t here _ hidle).symm

theorem makeDirectories_cons_eq_ok_iff {around : List Path}
    (hpieces : p.pieces = front ++ [last]) (hlast : last ≠ "")
    (haround : ∀ t, d.tree.openWay (d.origin p) front = some t →
      d.makeDirectories around = ({ d with tree := t }, .ok ()))
    (hclosed : d.tree.openWay (d.origin p) front = none →
      ∀ d', d.makeDirectories around = (d', .ok ()) → d' = d) :
    d.makeDirectories (p :: around) = (d', .ok ()) ↔
      ∃ t, d.tree.openWay (d.origin p) (front ++ [last]) = some t ∧ { d with tree := t } = d' := by
  rw [makeDirectories, if_neg (text_ne_empty_of_pieces hpieces hlast)]
  by_cases hopen : d.tree.IsOpen (d.origin p) front
  · rw [← settle_makeDirectory_eq_ok_iff hpieces hlast hopen,
      makeDirectory_of_isOpen hpieces hlast hopen]
    split_ifs <;> rfl
  · obtain ⟨fault, hwalk⟩ := exists_walk_error hopen
    have hmake : d.makeDirectory p = .error fault := by
      rw [makeDirectory, newPlace_of_pieces d hpieces hlast, hwalk]
      rfl
    have hsettle := settle_error_of_not_isOpen hpieces hlast hopen fault
    rw [hmake, FileTree.openWay_append]
    by_cases hfault : fault = .notFound
    · subst hfault
      simp only
      cases hway : d.tree.openWay (d.origin p) front with
      | none =>
          rcases hresult : d.makeDirectories around with ⟨d₁, _ | _⟩
          · simp
          · obtain rfl := hclosed hway d₁ hresult
            simp [hmake, hsettle]
      | some t =>
          rw [haround t hway]
          have hmade : t.IsOpen (d.origin p) front := FileTree.isOpen_of_openWay hway
          have hway' := FileTree.openWay_append t (d.origin p) front [last]
          rw [hmade.openWay] at hway'
          rw [← hway']
          exact settle_makeDirectory_eq_ok_iff (d := { d with tree := t }) hpieces hlast hmade
    · rw [openWay_eq_none_of_walk hwalk hfault]
      cases fault with
      | notFound => exact absurd rfl hfault
      | _ => simp [hsettle]

/-- The directories around a path are made exactly when the way to it can be opened. -/
theorem makeDirectories_eq_ok_iff {n : Nat} {core : List String} (htrimmed : Path.Trimmed core)
    (hslash : ∀ piece ∈ core, '/' ∉ piece.toList)
    (hlength : (Path.ofPieces core).text.length < n) {d d' : Disk} :
    d.makeDirectories (Path.ancestorsUpTo n (Path.ofPieces core)) = (d', .ok ()) ↔
      ∃ t, d.tree.openWay (d.origin (Path.ofPieces core)) core = some t ∧
        { d with tree := t } = d' := by
  induction n generalizing core d' with
  | zero => simp at hlength
  | succ n ih =>
      by_cases hroot : core = [""]
      · subst hroot
        have hpath : Path.ofPieces [""] = ⟨"/"⟩ := rfl
        have hway : d.tree.openWay (d.origin ⟨"/"⟩) [""] = some d.tree := rfl
        rw [hpath, Path.ancestorsUpTo, makeDirectories_root, hway]
        simp
      · obtain ⟨front, last, rfl, hlast, hdot⟩ : ∃ front last, core = front ++ [last] ∧
            last ≠ "" ∧ (front = [] ∨ last ≠ ".") := by
          cases htrimmed with
          | single first => exact ⟨[], first, rfl, by simpa using hroot, .inl rfl⟩
          | more hfront hlast hdot => exact ⟨_, _, rfl, hlast, .inr hdot⟩
        have hpieces := Path.pieces_ofPieces hslash htrimmed.ne_nil hroot
        have hshorter := Path.length_parentOf_lt hpieces hlast
        rw [Path.ancestorsUpTo, Path.parent?_of_pieces hpieces hlast hdot]
        simp only
        have horigin := origin_of_isAbsolute_eq d (Path.isAbsolute_parentOf hpieces)
        by_cases hfront : front = []
        · -- The path is a single piece, and nothing is made around it.
          subst hfront
          have hnothing : d.makeDirectories (Path.ancestorsUpTo n (Path.parentOf [])) =
              (d, .ok ()) := by
            cases n <;> rfl
          refine makeDirectories_cons_eq_ok_iff hpieces hlast ?_ ?_
          · intro t hway
            obtain ⟨-, rfl⟩ := FileTree.openWay_nil_eq_some_iff.mp hway
            exact hnothing
          · intro _ d₁ hresult
            exact (Prod.mk.inj (hnothing.symm.trans hresult)).1.symm
        · have hslash' : ∀ piece ∈ Path.trim front, '/' ∉ piece.toList := fun piece hpiece =>
            hslash piece (List.mem_append_left _ (Path.mem_of_mem_trim hpiece))
          rw [Path.parentOf, if_neg hfront] at hshorter horigin ⊢
          have haround := fun d' =>
            @ih (Path.trim front) (Path.trimmed_trim hfront) hslash' (by omega) d'
          rw [horigin, openWay_trim hfront] at haround
          refine makeDirectories_cons_eq_ok_iff hpieces hlast ?_ ?_
          · intro t hway
            exact (haround _).mpr ⟨t, hway, rfl⟩
          · intro hnone d₁ hresult
            obtain ⟨t, hway, -⟩ := (haround d₁).mp hresult
            rw [hnone] at hway
            simp at hway

theorem place_of_pieces {name : String} (d : Disk) (hpieces : p.pieces = front ++ [name])
    (hentry : Place.IsEntry name) :
    d.place p = front.foldl Place.move (d.origin p) ++ [name] := by
  rw [place, hpieces, List.foldl_append, List.foldl_cons, List.foldl_nil,
    Place.move_of_isEntry hentry]

theorem getLast?_text_ne_slash (hpieces : p.pieces = front ++ [last]) (hlast : last ≠ "") :
    p.text.toList.getLast? ≠ some '/' := by
  intro hslash
  have hstem := Path.stem_of_pieces hpieces hlast
  rw [Path.stem, if_pos (.inr hslash), hpieces, List.dropLast_concat] at hstem
  simp at hstem

theorem write_eq_ok_iff {name : String} {contents : Bytes} (hpieces : p.pieces = front ++ [name])
    (hentry : Place.IsEntry name) :
    d.write p contents = .ok d' ↔ d.tree.IsOpen (d.origin p) front ∧
      d.tree.get? (d.place p) ≠ some .directory ∧
      { d with tree := d.tree.put (d.place p) (.file contents) } = d' := by
  have hplace := place_of_pieces d hpieces hentry
  have hslash := getLast?_text_ne_slash hpieces hentry.1
  have hnew := newPlace_of_pieces d hpieces hentry.1
  rw [write, locate, if_neg (text_ne_empty_of_pieces hpieces hentry.1), hpieces]
  by_cases hopen : d.tree.IsOpen (d.origin p) front
  · have hwalk : walk d.tree (d.origin p) (front ++ [name]) =
        if d.tree.get? (d.place p) = none then .error .notFound else .ok (d.place p) := by
      rw [walk_append, walk_of_isOpen hopen]
      change walk d.tree _ [name] = _
      rw [walk_cons, hopen _ (Place.end_mem_way _ _), Place.move_of_isEntry hentry, ← hplace]
      simp [hentry, walk]
    rw [walk_dot_of_isOpen hopen] at hnew
    rw [hwalk]
    cases hget : d.tree.get? (d.place p) with
    | none =>
        have hfree : d.newPlace p = .ok (d.place p) := by
          rw [hnew]
          change (if _ then Except.error _ else Except.ok _) = _
          rw [if_neg, ← hplace]
          simp [hentry.2.1, hentry.2.2, ← hplace, hget]
        simp [hslash, hfree, hopen, bind, Except.bind, pure, Except.pure]
    | some entry => cases entry <;> simp [hget, hopen]
  · obtain ⟨fault, hfault⟩ : ∃ fault,
        walk d.tree (d.origin p) (front ++ [name]) = .error fault := by
      cases hwalk : walk d.tree (d.origin p) (front ++ [name]) with
      | error fault => exact ⟨fault, rfl⟩
      | ok place => exact absurd (isOpen_of_walk_append hwalk) hopen
    obtain ⟨fault', hdot⟩ := exists_walk_error hopen
    have hnone : d.newPlace p = .error fault' := by
      rw [hnew, hdot]
      rfl
    rw [hfault]
    cases fault <;> simp [hopen, hslash, hnone, bind, Except.bind]

theorem workingDirectory_of_makeDirectory (hmake : d.makeDirectory p = .ok d') :
    d'.workingDirectory = d.workingDirectory := by
  rw [makeDirectory] at hmake
  cases hplace : d.newPlace p with
  | error fault => simp [hplace, bind, Except.bind] at hmake
  | ok place =>
      simp only [hplace, bind, Except.bind, pure, Except.pure, Except.ok.injEq] at hmake
      rw [← hmake]

theorem workingDirectory_makeDirectories (d : Disk) (paths : List Path) :
    (d.makeDirectories paths).1.workingDirectory = d.workingDirectory := by
  have hsettle (d : Disk) (p : Path) :
      (makeDirectories.settle d p (d.makeDirectory p)).1.workingDirectory = d.workingDirectory := by
    cases hmake : d.makeDirectory p with
    | ok d₁ => exact workingDirectory_of_makeDirectory hmake
    | error fault =>
        rw [makeDirectories.settle]
        split_ifs <;> rfl
  induction paths with
  | nil => rfl
  | cons p around ih =>
      rw [makeDirectories]
      split_ifs
      · rfl
      · cases hmake : d.makeDirectory p with
        | ok d₁ => exact workingDirectory_of_makeDirectory hmake
        | error fault =>
            cases fault with
            | notFound =>
                simp only
                rcases hresult : d.makeDirectories around with ⟨d₁, _ | _⟩
                · rw [hresult] at ih
                  exact ih
                · rw [hresult] at ih
                  exact (hsettle d₁ p).trans ih
            | _ =>
                have hsame := hsettle d p
                rw [hmake] at hsame
                exact hsame

theorem makeDirectories_parentOf_iff (hpieces : p.pieces = front ++ [last]) :
    d.makeDirectories (Path.parentOf front).ancestors = (d', .ok ()) ∧
        d'.tree.IsOpen (d.origin p) front ↔
      ∃ t, d.tree.openWay (d.origin p) front = some t ∧ { d with tree := t } = d' := by
  by_cases hfront : front = []
  · subst hfront
    have hnothing : d.makeDirectories (Path.parentOf []).ancestors = (d, .ok ()) := rfl
    rw [hnothing, FileTree.isOpen_nil_iff]
    constructor
    · rintro ⟨hresult, hhere⟩
      obtain rfl := (Prod.mk.inj hresult).1
      exact ⟨d.tree, if_pos hhere, rfl⟩
    · rintro ⟨t, hway, rfl⟩
      obtain ⟨hhere, rfl⟩ := FileTree.openWay_nil_eq_some_iff.mp hway
      exact ⟨rfl, hhere⟩
  · have hslash : ∀ piece ∈ Path.trim front, '/' ∉ piece.toList := fun piece hpiece =>
      Path.no_slash_of_mem_pieces (hpieces ▸ List.mem_append_left _ (Path.mem_of_mem_trim hpiece))
    have horigin := origin_of_isAbsolute_eq d (Path.isAbsolute_parentOf hpieces)
    rw [Path.parentOf, if_neg hfront] at horigin ⊢
    rw [Path.ancestors, makeDirectories_eq_ok_iff (Path.trimmed_trim hfront) hslash
      (Nat.lt_succ_self _), horigin, openWay_trim hfront]
    constructor
    · exact And.left
    · rintro ⟨t, hway, rfl⟩
      exact ⟨⟨t, hway, rfl⟩, FileTree.isOpen_of_openWay hway⟩

theorem writeFile_eq {contents : Bytes} (hpieces : p.pieces = front ++ [last]) (hlast : last ≠ "")
    (hdot : last ≠ ".") (haccepts : ∀ refusal, d.refusals.head? ≠ some (some refusal)) :
    d.writeFile p contents =
      match ({ d with refusals := d.refusals.tail } : Disk).makeDirectories
        (Path.parentOf front).ancestors with
      | (d, .error fault) => (d, .error (Path.parentOf front, fault))
      | (d, .ok _) =>
        match d.write p contents with
        | .ok d => (d, .ok ())
        | .error fault => (d, .error (p, fault)) := by
  have hparent := Path.parent?_of_pieces hpieces hlast (.inr hdot)
  have hnone : d.refusals.head?.join = none := by
    rcases hhead : d.refusals.head? with _ | _ | refusal
    · rfl
    · rfl
    · exact absurd hhead (haccepts refusal)
  rw [writeFile, hnone]
  simp only [makeAround, hparent]
  rcases ({ d with refusals := d.refusals.tail } : Disk).makeDirectories
    (Path.parentOf front).ancestors with ⟨d₁, _ | _⟩
  · rfl
  · simp only [setContents]
    cases d₁.write p contents <;> rfl

theorem writeFile_ne_ok_of_refusal {contents : Bytes} {refusal : Refusal}
    (hrefuses : d.refusals.head? = some (some refusal)) :
    d.writeFile p contents ≠ (d', .ok ()) := by
  have hset (e : Disk) : ∃ fault, (e.setContents p contents (some refusal)).2 = .error fault := by
    cases refusal with
    | contents kept fault =>
        rw [setContents]
        cases e.write p (contents.dropLast.take kept) with
        | ok e' => exact ⟨fault, rfl⟩
        | error fault' => exact ⟨fault', rfl⟩
    | opening fault => exact ⟨fault, rfl⟩
    | directory more fault => exact ⟨fault, rfl⟩
  rw [writeFile, hrefuses]
  simp only [Option.join_some]
  rcases ({ d with refusals := d.refusals.tail } : Disk).makeAround p (some refusal) with
    ⟨d₁, e | _⟩
  · simp
  · obtain ⟨fault, hfault⟩ := hset d₁
    rcases hresult : d₁.setContents p contents (some refusal) with ⟨d₂, fault' | _⟩
    · simp [hresult]
    · rw [hresult] at hfault
      exact absurd hfault nofun

/-- A write that succeeds opens the way to the file's directory and puts the file there, and takes
one of the writes that the medium does not refuse. -/
theorem writeFile_eq_ok_iff {name : String} {contents : Bytes}
    (hpieces : p.pieces = front ++ [name]) (hentry : Place.IsEntry name) :
    d.writeFile p contents = (d', .ok ()) ↔
      (∀ refusal, d.refusals.head? ≠ some (some refusal)) ∧
      ∃ t, d.tree.openWay (d.origin p) front = some t ∧
        t.get? (d.place p) ≠ some .directory ∧
        { d with
          tree := t.put (d.place p) (.file contents)
          refusals := d.refusals.tail } = d' := by
  by_cases haccepts : ∀ refusal, d.refusals.head? ≠ some (some refusal)
  · rw [writeFile_eq hpieces hentry.1 hentry.2.1 haccepts]
    have hopened {d₁ : Disk} : _ ∧ d₁.tree.IsOpen (d.origin p) front ↔ _ :=
      makeDirectories_parentOf_iff (d := { d with refusals := d.refusals.tail }) hpieces
    constructor
    · intro hresult
      rcases hmade : ({ d with refusals := d.refusals.tail } : Disk).makeDirectories
        (Path.parentOf front).ancestors with ⟨d₁, _ | _⟩
      · simp [hmade] at hresult
      · simp only [hmade] at hresult
        cases hwrite : d₁.write p contents with
        | error fault => simp [hwrite] at hresult
        | ok d₂ =>
            obtain ⟨hopen, hfree, hput⟩ := (write_eq_ok_iff hpieces hentry).mp hwrite
            have hworking := workingDirectory_makeDirectories { d with refusals := d.refusals.tail }
              (Path.parentOf front).ancestors
            rw [hmade] at hworking
            have horigin : d₁.origin p = d.origin p := by rw [origin, origin, hworking]
            rw [horigin] at hopen
            obtain ⟨t, hway, rfl⟩ := hopened.mp ⟨hmade, hopen⟩
            simp only [hwrite, Prod.mk.injEq, and_true] at hresult
            exact ⟨haccepts, t, hway, hfree, hput.trans hresult⟩
    · rintro ⟨-, t, hway, hfree, rfl⟩
      obtain ⟨hmade, hopen⟩ := hopened.mpr ⟨t, hway, rfl⟩
      have hwrite : ({ d with tree := t, refusals := d.refusals.tail } : Disk).write p contents =
          .ok _ := (write_eq_ok_iff hpieces hentry).mpr ⟨hopen, hfree, rfl⟩
      rw [hmade]
      simp only [hwrite]
      rfl
  · constructor
    · intro hresult
      obtain ⟨refusal, hrefuses⟩ := not_forall.mp haccepts
      rw [not_not] at hrefuses
      exact absurd hresult (writeFile_ne_ok_of_refusal hrefuses)
    · rintro ⟨hall, -⟩
      exact absurd hall haccepts

theorem read_eq_ok_iff {bytes : Bytes} :
    d.read p = .ok bytes ↔
      d.locate p = .ok (d.place p) ∧ d.tree.get? (d.place p) = some (.file bytes) := by
  have hlocate : ∀ place, d.locate p = .ok place → place = d.place p := by
    intro place hplace
    rw [locate] at hplace
    split at hplace
    · simp at hplace
    · exact eq_of_walk_eq_ok hplace
  rw [read]
  cases hplace : d.locate p with
  | error fault => simp [bind, Except.bind]
  | ok place =>
      obtain rfl := hlocate place hplace
      simp only [bind, Except.bind]
      rcases d.tree.get? (d.place p) with _ | _ | _ <;> simp

theorem locate_of_isOpen (hpieces : p.pieces = front ++ [last]) (hlast : Place.IsEntry last)
    (hopen : d.tree.IsOpen (d.origin p) front) (hthere : d.tree.get? (d.place p) ≠ none) :
    d.locate p = .ok (d.place p) := by
  have hend := hopen _ (Place.end_mem_way (d.origin p) front)
  rw [place_of_pieces d hpieces hlast] at hthere ⊢
  rw [locate, if_neg (text_ne_empty_of_pieces hpieces hlast.1), hpieces, walk_append,
    walk_of_isOpen hopen]
  change walk _ _ [last] = _
  rw [walk_cons, hend, Place.move_of_isEntry hlast]
  exact if_neg fun hmissing => hthere hmissing.2

/-- A file that was written is read as what was written. -/
theorem read_of_writeFile {name : String} {contents : Bytes} (hpieces : p.pieces = front ++ [name])
    (hentry : Place.IsEntry name) (hwrite : d.writeFile p contents = (d', .ok ())) :
    d'.read p = .ok contents := by
  obtain ⟨-, t, hway, hfree, rfl⟩ := (writeFile_eq_ok_iff hpieces hentry).mp hwrite
  have hplace : d.place p ≠ [] := by
    rw [place_of_pieces d hpieces hentry]
    simp
  have hfile : (t.put (d.place p) (.file contents)).get? (d.place p) = some (.file contents) := by
    rw [FileTree.get?_put hplace, if_pos rfl]
  refine read_eq_ok_iff.mpr ⟨locate_of_isOpen hpieces hentry ?_ ?_, hfile⟩
  · -- The directories on the way stay, as the file is not put in the place of one.
    intro q hq
    have hdirectory : t.get? q = some .directory := FileTree.isOpen_of_openWay hway q hq
    have hother : q ≠ d.place p := by
      rintro rfl
      exact hfree hdirectory
    change (t.put (d.place p) (.file contents)).get? q = _
    rw [FileTree.get?_put hplace, if_neg hother, hdirectory]
  · change (t.put (d.place p) (.file contents)).get? (d.place p) ≠ none
    rw [hfile]
    simp

end Lexgen.Disk
