import Lexgen.Artifact
import Lexgen.Proofs.Names.TableNames

namespace Lexgen.Names

open Lexgen.Text

def isAliasChars : List Char → Bool
  | [] => false
  | c :: rest => c.isUpper && rest.all Emit.isAtomRest

/-- Whether a segment can stand in the name of a module. -/
def isAlias (segment : String) : Bool := isAliasChars segment.toList

/-- The words that name no function. -/
def reservedWords : List String :=
  ["true", "false", "nil", "when", "and", "or", "not", "in", "fn", "do", "end", "catch", "rescue",
    "after", "else"]

/-- The name of the function that makes a document's call. -/
def functionName (nsid : String) : String := snakeCase (splitNsid nsid).2

/-- A word in small letters, with a capital at its start, and in capitals. -/
def casings (word : String) : List String :=
  [word, capitalize word, String.ofList (word.toList.map Char.toUpper)]

section Letters

variable {c : Char}

theorem isAlphanum_toUpper (hc : c.isAlphanum = true) : c.toUpper.isAlphanum = true := by
  by_cases hlower : c.isLower = true
  · exact isAlphanum_of_isUpper (isUpper_toUpper_of_isLower hlower)
  · rwa [toUpper_of_not_isLower hlower]

theorem isAlphanum_toLower (hc : c.isAlphanum = true) : c.toLower.isAlphanum = true := by
  by_cases hupper : c.isUpper = true
  · exact isAlphanum_of_isLower (isLower_toLower_of_isUpper hupper)
  · rwa [toLower_of_not_isUpper hupper]

theorem toUpper_of_isUpper (hc : c.isUpper = true) : c.toUpper = c :=
  toUpper_of_not_isLower fun hlower => not_isUpper_of_isLower hlower hc

theorem isLower_of_not_isUpper (hc : c.isAlpha = true) (hupper : ¬ c.isUpper = true) :
    c.isLower = true :=
  (isAlpha_iff.mp hc).resolve_left hupper

theorem isAlpha_iff_not_isDigit (hc : c.isAlphanum = true) :
    c.isAlpha = true ↔ ¬ c.isDigit = true := by
  refine ⟨fun halpha hdigit => ?_, (isAlphanum_iff.mp hc).resolve_right⟩
  rw [isAlpha_iff, isUpper_iff, isLower_iff] at halpha
  rw [isDigit_iff] at hdigit
  omega

theorem upperForm_of_isAlphanum (hc : c.isAlphanum = true) : upperForm c = [c.toUpper] :=
  if_pos (isAscii_of_isAlphanum hc)

end Letters

section Modules

variable {c : Char} {segment : List Char} {nsid : String}

theorem isAlphanum_of_mem_titleSegment (hlabel : Nsid.IsLabel segment)
    (hc : c ∈ titleSegment segment) : c.isAlphanum = true := by
  obtain ⟨word, hword, hc⟩ := List.mem_flatMap.mp hc
  rw [splitAtChar_eq_splitOn] at hword
  have hletters : ∀ d ∈ word, d.isAlphanum = true := by
    intro d hd
    obtain ⟨hmem, hhyphen⟩ := mem_of_mem_splitOn hword hd
    simpa [Nsid.isInner, hhyphen] using hlabel.2 d hmem
  cases word with
  | nil => exact absurd hc List.not_mem_nil
  | cons d word =>
      rw [List.forall_mem_cons] at hletters
      rw [capitalizeChars, upperForm_of_isAlphanum hletters.1, List.singleton_append] at hc
      rcases List.mem_cons.mp hc with rfl | hc
      · exact isAlphanum_toUpper hletters.1
      · exact hletters.2 c hc

theorem exists_titleSegment_cons (hc : c.isAlphanum = true) (rest : List Char) :
    ∃ tail, titleSegment (c :: rest) = c.toUpper :: tail := by
  have hhyphen : ¬ (c == '-') = true := by
    rw [beq_iff_eq]
    rintro rfl
    exact absurd hc (by decide)
  rw [titleSegment, splitAtChar, splitBy, if_neg hhyphen]
  split <;> simp [capitalizeChars, upperForm_of_isAlphanum hc]

theorem isAliasChars_titleSegment_iff (hlabel : Nsid.IsLabel segment)
    (hstarts : Nsid.StartsIn Char.isAlphanum segment) :
    isAliasChars (titleSegment segment) = true ↔ ¬ Nsid.StartsIn Char.isDigit segment := by
  obtain ⟨c, hhead, hc⟩ := hstarts
  obtain ⟨rest, rfl⟩ := List.head?_eq_some_iff.mp hhead
  obtain ⟨tail, htitle⟩ := exists_titleSegment_cons hc rest
  have htail : tail.all Emit.isAtomRest = true := by
    rw [List.all_eq_true]
    intro d hd
    have hmem : d ∈ titleSegment (c :: rest) := htitle ▸ List.mem_cons_of_mem _ hd
    simp [Emit.isAtomRest, isAlphanum_of_mem_titleSegment hlabel hmem]
  -- a digit has no capital
  rw [htitle, isAliasChars, htail, Bool.and_true, isUpper_toUpper,
    isAlpha_iff_not_isDigit hc]
  simp [Nsid.StartsIn]

theorem segments_titleCase (nsid : String) :
    segments '.' (titleCase nsid) = (segments '.' nsid).map titleCase := by
  rw [titleCase_eq_intercalate]
  refine segments_intercalate ?_ (by simpa using segments_ne_nil '.' nsid)
  intro piece hpiece
  obtain ⟨segment, hsegment, rfl⟩ := List.mem_map.mp hpiece
  have hdot := not_mem_of_mem_segments hsegment
  rw [toList_titleCase hdot]
  exact dot_not_mem_titleSegment hdot

theorem startsIn_of_mem_segments (haccepted : Nsid.validate nsid = .ok ()) {segment : String}
    (hsegment : segment ∈ segments '.' nsid) : Nsid.StartsIn Char.isAlphanum segment.toList := by
  rw [segments_eq] at hsegment
  obtain ⟨cs, hcs, rfl⟩ := List.mem_map.mp hsegment
  rw [String.toList_ofList]
  exact (Nsid.areNsidPieces_of_validate haccepted).startsIn hcs

theorem isAlias_titleCase_iff (haccepted : Nsid.validate nsid = .ok ()) {segment : String}
    (hsegment : segment ∈ segments '.' nsid) :
    isAlias (titleCase segment) = true ↔ ¬ Nsid.StartsIn Char.isDigit segment.toList := by
  rw [isAlias, toList_titleCase (not_mem_of_mem_segments hsegment)]
  exact isAliasChars_titleSegment_iff (Nsid.isLabel_of_mem_segments haccepted hsegment)
    (startsIn_of_mem_segments haccepted hsegment)

end Modules

section Functions

variable {nsid : String}

theorem getLast?_splitOn (nsid : String) :
    (nsid.toList.splitOn '.').getLast? = some (splitNsid nsid).2.toList := by
  rw [splitNsid]
  cases hcut : cutLast '.' nsid.toList with
  | none => rw [List.splitOn_eq_singleton (not_mem_of_cutLast_eq_none hcut)]; rfl
  | some cut =>
      obtain ⟨hdot, hchars⟩ := of_cutLast_eq_some hcut
      rw [hchars, List.splitOn_append_cons_self, List.splitOn_eq_singleton hdot,
        List.getLast?_concat, String.toList_ofList]

theorem name_of_validate (haccepted : Nsid.validate nsid = .ok ()) :
    Nsid.StartsIn Char.isAlpha (splitNsid nsid).2.toList ∧
      ∀ c ∈ (splitNsid nsid).2.toList, c.isAlphanum = true := by
  have hpieces := Nsid.areNsidPieces_of_validate haccepted
  have hlast := getLast?_splitOn nsid
  obtain ⟨hstarts, hhyphen⟩ := hpieces.name _ hlast
  refine ⟨hstarts, fun c hc => ?_⟩
  have hlabel := (hpieces.segments _ (List.mem_of_getLast? hlast)).isLabel
  have hne : c ≠ '-' := fun heq => hhyphen (heq ▸ hc)
  simpa [Nsid.isInner, hne] using hlabel.2 c hc

theorem isAlphanum_of_mem_smallWords {cs w : List Char} (hcs : ∀ c ∈ cs, c.isAlphanum = true)
    (hw : w ∈ smallWords cs) {d : Char} (hd : d ∈ w) : d.isAlphanum = true := by
  obtain ⟨word, hword, rfl⟩ := List.mem_map.mp hw
  have hletters : ∀ c ∈ word, c.isAlphanum = true :=
    fun c hc => hcs c (mem_of_mem_words hword hc).1
  rw [lowerWord_eq_map fun c hc => isAscii_of_isAlphanum (hletters c hc)] at hd
  obtain ⟨c, hc, rfl⟩ := List.mem_map.mp hd
  exact isAlphanum_toLower (hletters c hc)

theorem isAtomRest_of_mem_intercalate {ws : List (List Char)}
    (hws : ∀ w ∈ ws, ∀ c ∈ w, c.isAlphanum = true) :
    ∀ c ∈ ['_'].intercalate ws, Emit.isAtomRest c = true := by
  induction ws with
  | nil => simp
  | cons w ws ih =>
      rw [List.forall_mem_cons] at hws
      have hw : ∀ c ∈ w, Emit.isAtomRest c = true := fun c hc => by
        rw [Emit.isAtomRest, hws.1 c hc, Bool.true_or]
      cases ws with
      | nil => simpa using hw
      | cons v ws =>
          rw [List.intercalate_cons_cons, List.forall_mem_append, List.forall_mem_append]
          exact ⟨⟨hw, by simp [Emit.isAtomRest]⟩, ih hws.2⟩

theorem exists_snakeChars_cons {c : Char} {rest : List Char}
    (hrun : ∀ d ∈ c :: rest, d.isAlphanum = true) :
    ∃ tail, snakeChars (c :: rest) = c.toLower :: tail := by
  have hletters := flatMap_smallWords fun d hd => isAscii_of_isAlphanum (hrun d hd)
  rw [lettersAfter, if_pos (hrun c List.mem_cons_self), List.singleton_append,
    List.map_cons] at hletters
  change ∃ tail, ['_'].intercalate (smallWords (c :: rest)) = c.toLower :: tail
  cases hwords : smallWords (c :: rest) with
  | nil => simp [hwords] at hletters
  | cons w ws =>
      have hne : w ≠ [] := ne_nil_of_mem_smallWords (hwords ▸ List.mem_cons_self)
      obtain ⟨d, w, rfl⟩ := List.exists_cons_of_ne_nil hne
      rw [hwords, List.flatMap_cons, wordLetters, List.cons_append, List.cons.injEq,
        Prod.mk.injEq] at hletters
      rw [hletters.1.1]
      cases ws with
      | nil => exact ⟨w, by simp⟩
      | cons v ws => exact ⟨_, by rw [List.intercalate_cons_cons]; rfl⟩

theorem isBareAtom_functionName (haccepted : Nsid.validate nsid = .ok ()) :
    Emit.isBareAtom (functionName nsid) = true := by
  obtain ⟨⟨c, hhead, hc⟩, hrun⟩ := name_of_validate haccepted
  obtain ⟨rest, hname⟩ := List.head?_eq_some_iff.mp hhead
  rw [hname] at hrun
  obtain ⟨tail, hsnake⟩ := exists_snakeChars_cons hrun
  have htail : ∀ d ∈ snakeChars (c :: rest), Emit.isAtomRest d = true :=
    isAtomRest_of_mem_intercalate fun w hw d => isAlphanum_of_mem_smallWords hrun hw
  rw [hsnake, List.forall_mem_cons] at htail
  rw [Emit.isBareAtom, functionName, snakeCase, String.toList_ofList, hname, hsnake,
    Emit.isBareChars, Emit.isAtomStart, isLower_toLower, hc, Bool.true_or,
    Bool.true_and, List.all_eq_true]
  exact htail.2

end Functions

section Reserved

variable {before cs small : List Char} {c : Char}

theorem caseBefore_cons_of_isLower (hc : c.isLower = true) :
    caseBefore (c :: before) = .lower := by
  have halpha := isAlphanum_of_isLower hc
  rw [caseBefore_cons halpha, WordCase.after, isLowercase_eq (isAscii_of_isAlphanum halpha),
    if_pos hc]

theorem caseBefore_cons_of_isUpper (hc : c.isUpper = true) :
    caseBefore (c :: before) = .upper := by
  have halpha := isAlphanum_of_isUpper hc
  have hascii := isAscii_of_isAlphanum halpha
  rw [caseBefore_cons halpha, WordCase.after, isLowercase_eq hascii, isUppercase_eq hascii,
    if_neg fun hlower => not_isUpper_of_isLower hlower hc, if_pos hc]

/-- The text goes on with the word before it: it is `small` without its case, and no letter of it
starts a word. -/
structure GoesOn (before cs small : List Char) : Prop where
  isAlphanum : ∀ c ∈ cs, c.isAlphanum = true
  isLower : ∀ c ∈ small, c.isLower = true
  letters : (lettersAfter before cs).map (fun (c, starts) => (c.toLower, starts)) =
    small.map (·, false)

theorem GoesOn.eq_nil (hgoesOn : GoesOn before [] small) : small = [] :=
  List.map_eq_nil_iff.mp hgoesOn.letters.symm

theorem GoesOn.exists_cons {rest : List Char} (hgoesOn : GoesOn before (c :: rest) small) :
    ∃ tail, small = c.toLower :: tail ∧ c.isAlpha = true ∧ startsWord before c rest = false ∧
      GoesOn (c :: before) rest tail := by
  obtain ⟨hrun, hsmall, hletters⟩ := hgoesOn
  rw [List.forall_mem_cons] at hrun
  rw [lettersAfter, if_pos hrun.1, List.singleton_append, List.map_cons] at hletters
  obtain ⟨d, tail, rfl, hd, htail⟩ := List.map_eq_cons_iff.mp hletters.symm
  obtain ⟨rfl, hstarts⟩ := Prod.mk.inj hd
  rw [List.forall_mem_cons, isLower_toLower] at hsmall
  exact ⟨tail, rfl, hsmall.1, hstarts.symm, hrun.2, hsmall.2, htail.symm⟩

theorem GoesOn.eq_of_lower (hgoesOn : GoesOn before cs small)
    (hbefore : caseBefore before = .lower) : cs = small := by
  induction cs generalizing before small with
  | nil => exact hgoesOn.eq_nil.symm
  | cons c rest ih =>
      obtain ⟨tail, rfl, halpha, hstarts, htail⟩ := hgoesOn.exists_cons
      -- a capital behind a small letter would start a word
      have hupper : ¬ c.isUpper = true := fun hupper =>
        Bool.eq_false_iff.mp hstarts (startsWord_iff.mpr (.inr ⟨hupper, .inl hbefore⟩))
      have hlower : c.isLower = true := isLower_of_not_isUpper halpha hupper
      rw [toLower_of_not_isUpper hupper, ih htail (caseBefore_cons_of_isLower hlower)]

theorem GoesOn.eq_of_upper (hgoesOn : GoesOn before cs small)
    (hbefore : caseBefore before = .upper) : cs = small ∨ cs = small.map Char.toUpper := by
  induction cs generalizing before small with
  | nil => exact .inl hgoesOn.eq_nil.symm
  | cons c rest ih =>
      obtain ⟨tail, rfl, halpha, hstarts, htail⟩ := hgoesOn.exists_cons
      by_cases hupper : c.isUpper = true
      · -- a capital starts a word if a small letter follows, so none does
        have hnext : rest.head?.any Char.isLower = false := by
          refine Bool.eq_false_iff.mpr fun hnext => Bool.eq_false_iff.mp hstarts ?_
          exact startsWord_iff.mpr (.inr ⟨hupper, .inr ⟨hbefore, hnext⟩⟩)
        have hrest : rest = tail.map Char.toUpper := by
          rcases ih htail (caseBefore_cons_of_isUpper hupper) with rfl | hrest
          · cases rest with
            | nil => rfl
            | cons d rest =>
                exact absurd (htail.isLower d List.mem_cons_self) (by simpa using hnext)
          · exact hrest
        right
        rw [List.map_cons, toUpper_toLower, ← hrest, toUpper_of_isUpper hupper]
      · have hlower : c.isLower = true := isLower_of_not_isUpper halpha hupper
        left
        rw [toLower_of_not_isUpper hupper,
          htail.eq_of_lower (caseBefore_cons_of_isLower hlower)]

theorem lettersAfter_eq_wordLetters {word : List Char} (hcs : ∀ c ∈ cs, c.isAlphanum = true)
    (hne : word ≠ []) (hmark : '_' ∉ word) (hsnake : snakeChars cs = word) :
    (lettersAfter [] cs).map (fun (c, starts) => (c.toLower, starts)) = wordLetters word := by
  have hascii : ∀ c ∈ cs, isAscii c = true := fun c hc => isAscii_of_isAlphanum (hcs c hc)
  have hwords : smallWords cs ≠ [] := by
    intro hnil
    refine hne (hsnake.symm.trans ?_)
    exact congrArg ['_'].intercalate hnil
  have hread : (snakeChars cs).splitOn '_' = smallWords cs :=
    List.splitOn_intercalate '_' (fun w => underscore_not_mem_smallWords hascii) hwords
  rw [← flatMap_smallWords hascii, ← hread, hsnake, List.splitOn_eq_singleton hmark,
    List.flatMap_singleton]

theorem mem_casings_of_snakeCase_eq {name word : String}
    (hname : ∀ c ∈ name.toList, c.isAlphanum = true) (hne : word.toList ≠ [])
    (hword : ∀ c ∈ word.toList, c.isLower = true) (hsnake : snakeCase name = word) :
    name ∈ casings word := by
  have hmark : '_' ∉ word.toList := fun hmark => absurd (hword '_' hmark) (by decide)
  have hletters := lettersAfter_eq_wordLetters hname hne hmark
    (by rw [← hsnake, snakeCase, String.toList_ofList])
  obtain ⟨w, small, hsmall⟩ := List.exists_cons_of_ne_nil hne
  rw [hsmall] at hletters hword
  simp only [casings, List.mem_cons, List.not_mem_nil, or_false, ← String.toList_inj, capitalize,
    String.toList_ofList, hsmall]
  cases hchars : name.toList with
  | nil => simp [hchars, lettersAfter, wordLetters] at hletters
  | cons c rest =>
      rw [hchars, List.forall_mem_cons] at hname
      rw [hchars, lettersAfter, if_pos hname.1, List.singleton_append, List.map_cons, wordLetters,
        List.cons.injEq, Prod.mk.injEq] at hletters
      rw [List.forall_mem_cons] at hword
      obtain ⟨⟨rfl, -⟩, hrest⟩ := hletters
      have hgoesOn : GoesOn [c] rest small := ⟨hname.2, hword.2, hrest⟩
      have halpha : c.isAlpha = true := (isLower_toLower c).symm.trans hword.1
      rw [capitalizeChars, upperForm_of_isAlphanum (isAlphanum_toLower hname.1),
        List.singleton_append, List.map_cons, toUpper_toLower]
      by_cases hupper : c.isUpper = true
      · rw [toUpper_of_isUpper hupper]
        rcases hgoesOn.eq_of_upper (caseBefore_cons_of_isUpper hupper) with rfl | rfl
        · exact .inr (.inl rfl)
        · exact .inr (.inr rfl)
      · have hlower : c.isLower = true := isLower_of_not_isUpper halpha hupper
        rw [toLower_of_not_isUpper hupper,
          hgoesOn.eq_of_lower (caseBefore_cons_of_isLower hlower)]
        exact .inl rfl

theorem reservedWords_small : ∀ word ∈ reservedWords,
    word.toList ≠ [] ∧ word.toList.all Char.isLower = true := by
  decide +kernel

theorem snakeCase_of_mem_casings : ∀ word ∈ reservedWords, ∀ name ∈ casings word,
    snakeCase name = word := by
  decide +kernel

theorem functionName_mem_reservedWords_iff {nsid : String}
    (haccepted : Nsid.validate nsid = .ok ()) :
    functionName nsid ∈ reservedWords ↔
      ∃ word ∈ reservedWords, (splitNsid nsid).2 ∈ casings word := by
  constructor
  · intro hreserved
    obtain ⟨hne, hsmall⟩ := reservedWords_small _ hreserved
    exact ⟨_, hreserved,
      mem_casings_of_snakeCase_eq (name_of_validate haccepted).2 hne (List.all_eq_true.mp hsmall)
        rfl⟩
  · rintro ⟨word, hword, hname⟩
    rwa [functionName, snakeCase_of_mem_casings word hword _ hname]

end Reserved

/-- What an accepted NSID gives for names. The segments of its modules can stand in code exactly
when no segment of it starts with a digit. The function of its call always has the form of a name,
and is a reserved word exactly when the NSID ends in one, in small letters, capitalized or in
capitals. -/
theorem usable_names_iff {nsid : String} (haccepted : Nsid.validate nsid = .ok ()) :
    ((∀ segment ∈ segments '.' (titleCase nsid), isAlias segment = true) ↔
      ∀ segment ∈ segments '.' nsid, ¬ Nsid.StartsIn Char.isDigit segment.toList) ∧
    Emit.isBareAtom (functionName nsid) = true ∧
    (functionName nsid ∈ reservedWords ↔
      ∃ word ∈ reservedWords, (splitNsid nsid).2 ∈ casings word) ∧
    ∀ (doc : Document) (runtimeModule : String) (kind : CallKind) (d : CallDef), doc.id = nsid →
      let file := ((Lexicon.ofDocument doc).1.callFile runtimeModule kind d).1
      file.moduleName = titleCase nsid ++ "." ++ capitalize d.key ∧
        file.function = functionName nsid := by
  refine ⟨?_, isBareAtom_functionName haccepted, functionName_mem_reservedWords_iff haccepted, ?_⟩
  · rw [segments_titleCase, List.forall_mem_map]
    exact forall₂_congr fun segment hsegment => isAlias_titleCase_iff haccepted hsegment
  · rintro doc runtimeModule kind d rfl
    exact ⟨rfl, rfl⟩

/-- A digit behind a hyphen starts no segment, and a word may start like a reserved one. -/
theorem usable_names_of_hyphened :
    Nsid.validate "net.my-3d.v2.endOf" = .ok () ∧
      (∀ segment ∈ segments '.' (titleCase "net.my-3d.v2.endOf"), isAlias segment = true) ∧
      Emit.isBareAtom (functionName "net.my-3d.v2.endOf") = true ∧
      functionName "net.my-3d.v2.endOf" ∉ reservedWords := by
  have haccepted : Nsid.validate "net.my-3d.v2.endOf" = .ok () := by decide +kernel
  obtain ⟨haliases, hbare, hreserved, -⟩ := usable_names_iff haccepted
  have hsegments : segments '.' "net.my-3d.v2.endOf" = ["net", "my-3d", "v2", "endOf"] := by
    decide +kernel
  refine ⟨haccepted, haliases.mpr ?_, hbare, mt hreserved.mp (by decide +kernel)⟩
  simp [hsegments, Nsid.StartsIn]

/-- A segment that starts with a digit, and a name that is a reserved word. -/
theorem unusable_names_of_accepted :
    Nsid.validate "com.3d.end" = .ok () ∧
      "3d" ∈ segments '.' (titleCase "com.3d.end") ∧ isAlias "3d" = false ∧
      functionName "com.3d.end" = "end" ∧ "end" ∈ reservedWords := by
  decide +kernel

end Lexgen.Names
