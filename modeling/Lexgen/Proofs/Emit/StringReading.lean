import Lexgen.Emit.Literal

namespace Lexgen.Emit

/-- Why a text is not a literal. -/
inductive ReadingFault where
  | notOpened
  | notEnded
  | interpolated
  deriving DecidableEq, Repr

/-- The character that a backslash and `c` stand for. -/
def escapedBy (c : Char) : Char :=
  if c = 'n' then '\n' else if c = 'r' then '\r' else if c = 't' then '\t' else c

/-- Reads up to the closing quote of a string, and gives its characters and what is left. -/
def readString : List Char → Except ReadingFault (List Char × List Char)
  | [] => .error .notEnded
  | '"' :: rest => .ok ([], rest)
  | '\\' :: c :: rest => (readString rest).map fun (cs, after) => (escapedBy c :: cs, after)
  | '#' :: '\x7b' :: _ => .error .interpolated
  | c :: rest => (readString rest).map fun (cs, after) => (c :: cs, after)

def readQuoted : List Char → Except ReadingFault (List Char × List Char)
  | '"' :: rest => readString rest
  | _ => .error .notOpened

theorem readString_cons {c : Char} {rest : List Char} (hquote : c ≠ '"') (hslash : c ≠ '\\')
    (hsharp : c = '#' → rest.head? ≠ some '\x7b') :
    readString (c :: rest) = (readString rest).map fun (cs, after) => (c :: cs, after) := by
  rw [readString]
  · exact hquote
  · rintro d after rfl -
    exact hslash rfl
  · rintro after rfl rfl
    exact hsharp rfl rfl

theorem escapeChar_cases (c : Char) (next : Option Char) :
    (∃ d, escapeChar c next = ['\\', d] ∧ escapedBy d = c) ∨
      escapeChar c next = [c] ∧ c ≠ '"' ∧ c ≠ '\\' ∧ (c = '#' → next ≠ some '\x7b') := by
  fun_cases escapeChar c next with
  | case1 hc => exact .inl ⟨'"', rfl, hc.symm⟩
  | case2 _ hc => exact .inl ⟨'\\', rfl, hc.symm⟩
  | case3 _ _ hc => exact .inl ⟨'n', rfl, hc.symm⟩
  | case4 _ _ _ hc => exact .inl ⟨'r', rfl, hc.symm⟩
  | case5 _ _ _ _ hc => exact .inl ⟨'t', rfl, hc.symm⟩
  | case6 _ _ _ _ _ hsharp => exact .inl ⟨'#', rfl, hsharp.1.symm⟩
  | case7 hquote hslash _ _ _ hsharp =>
      exact .inr ⟨rfl, hquote, hslash, fun hc hnext => hsharp ⟨hc, hnext⟩⟩

theorem head?_of_head?_escapeChars_append {cs rest : List Char}
    (hhead : (escapeChars cs ++ '"' :: rest).head? = some '\x7b') : cs.head? = some '\x7b' := by
  rcases cs with _ | ⟨c, cs⟩
  · exact absurd hhead (by simp [escapeChars])
  · rw [escapeChars] at hhead
    rcases escapeChar_cases c cs.head? with ⟨d, hc, -⟩ | ⟨hc, -⟩ <;> rw [hc] at hhead
    · exact absurd hhead (by simp)
    · exact hhead

theorem readString_escapeChars_append (cs rest : List Char) :
    readString (escapeChars cs ++ '"' :: rest) = .ok (cs, rest) := by
  induction cs with
  | nil => rfl
  | cons c cs ih =>
      rw [escapeChars, List.append_assoc]
      rcases escapeChar_cases c cs.head? with ⟨d, hc, hd⟩ | ⟨hc, hquote, hslash, hsharp⟩ <;> rw [hc]
      · show readString ('\\' :: d :: (escapeChars cs ++ '"' :: rest)) = _
        rw [readString, ih, ← hd]
        rfl
      · rw [List.singleton_append, readString_cons hquote hslash, ih]
        · rfl
        · exact fun hc hhead => hsharp hc (head?_of_head?_escapeChars_append hhead)

theorem readQuoted_quoted_append (s : String) (rest : List Char) :
    readQuoted ((quoted s).toList ++ rest) = .ok (s.toList, rest) := by
  have htext : (quoted s).toList ++ rest = '"' :: (escapeChars s.toList ++ '"' :: rest) := by
    rw [quoted, String.toList_ofList, quotedChars]
    simp
  rw [htext, readQuoted, readString_escapeChars_append]

theorem quoted_injective {s t : String} (heq : quoted s = quoted t) : s = t := by
  have hread := readQuoted_quoted_append s []
  rw [heq, readQuoted_quoted_append t []] at hread
  exact String.toList_inj.mp (Prod.mk.inj (Except.ok.inj hread)).1.symm

theorem quoted_ne_of_isBareAtom {name : String} (hbare : isBareAtom name = true) (s : String) :
    quoted s ≠ name := by
  rintro rfl
  rw [isBareAtom, quoted, String.toList_ofList] at hbare
  exact absurd hbare (by simp [quotedChars, isBareChars, isAtomStart])

theorem nameText_injective {s t : String} (heq : nameText s = nameText t) : s = t := by
  rw [nameText, nameText] at heq
  split at heq <;> split at heq
  · exact heq
  · rename_i hs _
    exact absurd heq.symm (quoted_ne_of_isBareAtom hs t)
  · rename_i _ ht
    exact absurd heq (quoted_ne_of_isBareAtom ht s)
  · exact quoted_injective heq

theorem atom_injective {s t : String} (heq : atom s = atom t) : s = t :=
  nameText_injective (String.append_right_inj _ |>.mp heq)

theorem keywordKey_injective {s t : String} (heq : keywordKey s = keywordKey t) : s = t :=
  nameText_injective (String.append_left_inj _ |>.mp heq)

/-- String literals show their ends and what they hold, without interpolation, whatever follows
them. So names written as atoms or as keys stay apart, with quotes and without. -/
theorem string_literals_exact :
    (∀ (s : String) (rest : List Char),
      readQuoted ((quoted s).toList ++ rest) = .ok (s.toList, rest)) ∧
    (∀ bare odd : String, isBareAtom bare = true → isBareAtom odd = false →
      atom bare ≠ atom odd ∧ keywordKey bare ≠ keywordKey odd) ∧
    (∀ s t : String, atom s = atom t → s = t) ∧
    ∀ s t : String, keywordKey s = keywordKey t → s = t := by
  refine ⟨readQuoted_quoted_append, ?_, fun _ _ => atom_injective, fun _ _ => keywordKey_injective⟩
  intro bare odd hbare hodd
  have hne : bare ≠ odd := by
    rintro rfl
    rw [hbare] at hodd
    exact absurd hodd (by decide)
  exact ⟨fun heq => hne (atom_injective heq), fun heq => hne (keywordKey_injective heq)⟩

/-- Sharps before a brace, a backslash at the end and a quote behind the literal; and two names of
which one needs quotes. -/
theorem string_literals_exact_sharps :
    readQuoted ((quoted "##\x7b\\").toList ++ ['"']) = .ok ("##\x7b\\".toList, ['"']) ∧
      atom "nil" ≠ atom "Nil" ∧ keywordKey "nil" ≠ keywordKey "Nil" :=
  ⟨string_literals_exact.1 _ _, string_literals_exact.2.1 "nil" "Nil" (by decide) (by decide)⟩

end Lexgen.Emit
