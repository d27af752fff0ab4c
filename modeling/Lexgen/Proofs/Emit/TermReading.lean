import Lexgen.Emit.Field
import Lexgen.Proofs.Emit.StringReading
import Lexgen.Proofs.Number.Spelling

namespace Lexgen.Emit

section Reader

variable {α : Type}

/-- Reads elements with a comma and a space between two of them, and the bracket after the last.
There is at least one, and there are at most `fuel`. -/
def readSeries (readElement : List Char → Option (α × List Char)) (close : Char) :
    Nat → List Char → Option (List α × List Char)
  | 0, _ => none
  | fuel + 1, cs => do
    match ← readElement cs with
    | (element, ',' :: ' ' :: rest) =>
      let (elements, rest) ← readSeries readElement close fuel rest
      some (element :: elements, rest)
    | (element, c :: rest) => if c = close then some ([element], rest) else none
    | (_, []) => none

def readEnclosed (readElement : List Char → Option (α × List Char)) (close : Char)
    (cs : List Char) : Option (List α × List Char) :=
  if cs.head? = some close then some ([], cs.tail) else readSeries readElement close cs.length cs

def readMember (readValue : List Char → Option (Json × List Char)) (cs : List Char) :
    Option ((String × Json) × List Char) := do
  match ← (readQuoted cs).toOption with
  | (key, ' ' :: '=' :: '>' :: ' ' :: rest) =>
    let (value, rest) ← readValue rest
    some ((String.ofList key, value), rest)
  | _ => none

/-- Reads a term with fewer than `depth` brackets inside each other, and gives its value and what
is left. -/
def readTerm : Nat → List Char → Option (Json × List Char)
  | 0, _ => none
  | _ + 1, 'n' :: 'i' :: 'l' :: rest => some (.null, rest)
  | _ + 1, 't' :: 'r' :: 'u' :: 'e' :: rest => some (.bool true, rest)
  | _ + 1, 'f' :: 'a' :: 'l' :: 's' :: 'e' :: rest => some (.bool false, rest)
  | _ + 1, '"' :: rest =>
    (readString rest).toOption.map fun (cs, rest) => (.string (String.ofList cs), rest)
  | depth + 1, '[' :: rest =>
    (readEnclosed (readTerm depth) ']' rest).map fun (items, rest) => (.array items, rest)
  | depth + 1, '%' :: '\x7b' :: rest =>
    (readEnclosed (readMember (readTerm depth)) '\x7d' rest).map fun (members, rest) =>
      (.object members, rest)
  | _ + 1, cs =>
    (readNumber (cs.takeWhile isNumeric)).map fun n => (.number n, cs.dropWhile isNumeric)

/-- Reads a text that is a term from its start to its end. -/
def readLiteral (text : String) : Option Json :=
  match readTerm text.length text.toList with
  | some (value, []) => some value
  | _ => none

end Reader

section Series

variable {α : Type} {readElement : List Char → Option (α × List Char)} {close : Char}
  {write : α → List Char} {elements : List α} {cs rest after : List Char} {a : α} {fuel : Nat}

theorem readSeries_last (hclose : close ≠ ',') (hread : readElement cs = some (a, close :: rest)) :
    readSeries readElement close (fuel + 1) cs = some ([a], rest) := by
  simp [readSeries, hread, hclose]

theorem readSeries_more (hread : readElement cs = some (a, ',' :: ' ' :: rest))
    (hmore : readSeries readElement close fuel rest = some (elements, after)) :
    readSeries readElement close (fuel + 1) cs = some (a :: elements, after) := by
  simp [readSeries, hread, hmore]

theorem readSeries_intercalate (hclose : close ≠ ',') (hne : elements ≠ [])
    (hread : ∀ a ∈ elements, ∀ c, c = ',' ∨ c = close → ∀ rest,
      readElement (write a ++ c :: rest) = some (a, c :: rest))
    (hfuel : ([',', ' '].intercalate (elements.map write)).length < fuel) :
    readSeries readElement close fuel
      ([',', ' '].intercalate (elements.map write) ++ close :: rest) = some (elements, rest) := by
  induction elements generalizing fuel with
  | nil => exact absurd rfl hne
  | cons a elements ih =>
      obtain ⟨fuel, rfl⟩ : ∃ n, fuel = n + 1 := ⟨fuel - 1, by omega⟩
      rw [List.forall_mem_cons] at hread
      cases elements with
      | nil =>
          rw [List.map_singleton, List.intercalate_singleton]
          exact readSeries_last hclose (hread.1 close (.inr rfl) rest)
      | cons b elements =>
          rw [List.map_cons, List.map_cons, List.intercalate_cons_cons, ← List.map_cons] at hfuel ⊢
          simp only [List.length_append, List.length_cons, List.length_nil] at hfuel
          rw [List.append_assoc, List.append_assoc]
          apply readSeries_more (hread.1 ',' (.inl rfl) _)
          exact ih (List.cons_ne_nil b elements) hread.2 (by omega)

theorem readEnclosed_intercalate (hclose : close ≠ ',')
    (hread : ∀ a ∈ elements, ∀ c, c = ',' ∨ c = close → ∀ rest,
      readElement (write a ++ c :: rest) = some (a, c :: rest))
    (hempty : ∀ rest, readElement (close :: rest) = none) :
    readEnclosed readElement close
      ([',', ' '].intercalate (elements.map write) ++ close :: rest) = some (elements, rest) := by
  cases elements with
  | nil => simp [readEnclosed]
  | cons a elements =>
      have hseries : ∀ fuel, ([',', ' '].intercalate ((a :: elements).map write)).length < fuel →
          readSeries readElement close fuel ([',', ' '].intercalate ((a :: elements).map write) ++
            close :: rest) = some (a :: elements, rest) :=
        fun fuel => readSeries_intercalate hclose (List.cons_ne_nil a elements) hread
      generalize [',', ' '].intercalate ((a :: elements).map write) = text at hseries ⊢
      rw [readEnclosed, if_neg, hseries _ (by simp)]
      -- If the text began with the bracket, its first element would not be read at all.
      intro hhead
      obtain ⟨tail, htail⟩ : ∃ tail, text ++ close :: rest = close :: tail :=
        List.head?_eq_some_iff.mp hhead
      have hnone := hseries (text.length + 1) (by omega)
      rw [htail, readSeries, hempty] at hnone
      exact absurd hnone (by simp)

end Series

section Terms

theorem literalItems_eq (items : List Json) : literalItems items = items.map literalChars := by
  induction items with
  | nil => rfl
  | cons item items ih => exact congrArg (literalChars item :: ·) ih

def memberChars (member : String × Json) : List Char :=
  quotedChars member.1.toList ++ " => ".toList ++ literalChars member.2

theorem literalMembers_eq (members : List (String × Json)) :
    literalMembers members = members.map memberChars := by
  induction members with
  | nil => rfl
  | cons member members ih => exact congrArg (memberChars member :: ·) ih

theorem literalChars_array (items : List Json) :
    literalChars (.array items) =
      '[' :: [',', ' '].intercalate (items.map literalChars) ++ [']'] := by
  rw [← literalItems_eq]
  rfl

theorem literalChars_object (members : List (String × Json)) :
    literalChars (.object members) =
      '%' :: '\x7b' :: [',', ' '].intercalate (members.map memberChars) ++ ['\x7d'] := by
  rw [← literalMembers_eq]
  rfl

theorem length_le_length_intercalate {α : Type} (separator : List α) {piece : List α}
    {pieces : List (List α)} (hpiece : piece ∈ pieces) :
    piece.length ≤ (separator.intercalate pieces).length := by
  induction pieces with
  | nil => simp at hpiece
  | cons first pieces ih =>
      cases pieces with
      | nil => exact Nat.le_of_eq (by rw [List.mem_singleton.mp hpiece, List.intercalate_singleton])
      | cons second pieces =>
          rw [List.intercalate_cons_cons, List.length_append, List.length_append]
          rcases List.mem_cons.mp hpiece with rfl | hpiece
          · omega
          · have hle := ih hpiece
            omega

theorem length_literalChars_lt_array {item : Json} {items : List Json} (hitem : item ∈ items) :
    (literalChars item).length < (literalChars (.array items)).length := by
  have hitem : literalChars item ∈ items.map literalChars := List.mem_map_of_mem hitem
  have hle := length_le_length_intercalate [',', ' '] hitem
  simp only [literalChars_array, List.length_append, List.length_cons]
  omega

theorem length_literalChars_lt_object {member : String × Json} {members : List (String × Json)}
    (hmember : member ∈ members) :
    (literalChars member.2).length < (literalChars (.object members)).length := by
  have hmember : memberChars member ∈ members.map memberChars := List.mem_map_of_mem hmember
  have hle := length_le_length_intercalate [',', ' '] hmember
  rw [memberChars, List.length_append] at hle
  simp only [literalChars_object, List.length_append, List.length_cons]
  omega

theorem literalChars_ne_nil (value : Json) : literalChars value ≠ [] := by
  cases value with
  | number n =>
      intro hnil
      have hread := readNumber_chars n
      rw [show n.chars = [] from hnil] at hread
      exact absurd hread (by simp [readNumber, readSpelling])
  | null => exact List.cons_ne_nil _ _
  | bool b => cases b <;> exact List.cons_ne_nil _ _
  | string s => exact List.cons_ne_nil _ _
  | array items => simp [literalChars_array]
  | object members => simp [literalChars_object]

theorem readTerm_of_isNumeric {c : Char} (hc : isNumeric c) (depth : Nat) (rest : List Char) :
    readTerm (depth + 1) (c :: rest) =
      (readNumber ((c :: rest).takeWhile isNumeric)).map fun n =>
        (.number n, (c :: rest).dropWhile isNumeric) := by
  rw [readTerm]
  all_goals
    intro after heq
    rw [(List.cons.inj heq).1] at hc
    exact absurd hc (by decide)

theorem readTerm_number (n : Number) (depth : Nat) {rest : List Char}
    (hrest : ∀ c ∈ rest.head?, isNumeric c = false) :
    readTerm (depth + 1) (n.chars ++ rest) = some (.number n, rest) := by
  have hnumeric : ∀ c ∈ n.chars, isNumeric c := fun _ => isNumeric_of_mem_chars
  obtain ⟨c, cs, hcs⟩ := List.exists_cons_of_ne_nil (literalChars_ne_nil (.number n))
  have hchars : n.chars = c :: cs := hcs
  have hread : readTerm (depth + 1) (n.chars ++ rest) =
      (readNumber ((n.chars ++ rest).takeWhile isNumeric)).map fun m =>
        (.number m, (n.chars ++ rest).dropWhile isNumeric) := by
    rw [hchars]
    exact readTerm_of_isNumeric (hnumeric c (by simp [hchars])) depth (cs ++ rest)
  rw [hread, takeWhile_append_of_head? hnumeric hrest, dropWhile_append_of_head? hnumeric hrest,
    readNumber_chars, Option.map_some]

theorem readMember_memberChars {readValue : List Char → Option (Json × List Char)}
    {member : String × Json} {rest : List Char}
    (hread : readValue (literalChars member.2 ++ rest) = some (member.2, rest)) :
    readMember readValue (memberChars member ++ rest) = some (member, rest) := by
  have hkey := readQuoted_quoted_append member.1 (" => ".toList ++ (literalChars member.2 ++ rest))
  rw [quoted, String.toList_ofList] at hkey
  rw [readMember, memberChars, List.append_assoc, List.append_assoc, hkey]
  simp [hread, Except.toOption]

section Depth

variable {depth : Nat}

theorem readTerm_string (s : String) (rest : List Char) :
    readTerm (depth + 1) (literalChars (.string s) ++ rest) = some (.string s, rest) := by
  have htext : quotedChars s.toList ++ rest = '"' :: (escapeChars s.toList ++ '"' :: rest) := by
    simp [quotedChars]
  have hstep : ∀ cs, readTerm (depth + 1) ('"' :: cs) =
      (readString cs).toOption.map fun (cs, rest) => (.string (String.ofList cs), rest) :=
    fun _ => rfl
  change readTerm (depth + 1) (quotedChars s.toList ++ rest) = some (.string s, rest)
  rw [htext, hstep, readString_escapeChars_append]
  simp [Except.toOption]

theorem readTerm_array {items : List Json} (rest : List Char)
    (hread : ∀ item ∈ items, ∀ c, c = ',' ∨ c = ']' → ∀ rest,
      readTerm depth (literalChars item ++ c :: rest) = some (item, c :: rest)) :
    readTerm (depth + 1) (literalChars (.array items) ++ rest) = some (.array items, rest) := by
  have htext : literalChars (.array items) ++ rest =
      '[' :: ([',', ' '].intercalate (items.map literalChars) ++ ']' :: rest) := by
    simp [literalChars_array]
  have hstep : ∀ cs, readTerm (depth + 1) ('[' :: cs) =
      (readEnclosed (readTerm depth) ']' cs).map fun (items, rest) => (.array items, rest) :=
    fun _ => rfl
  rw [htext, hstep, readEnclosed_intercalate (by decide) hread, Option.map_some]
  intro rest
  cases depth <;> rfl

theorem readTerm_object {members : List (String × Json)} (rest : List Char)
    (hread : ∀ member ∈ members, ∀ c, c = ',' ∨ c = '\x7d' → ∀ rest,
      readTerm depth (literalChars member.2 ++ c :: rest) = some (member.2, c :: rest)) :
    readTerm (depth + 1) (literalChars (.object members) ++ rest) =
      some (.object members, rest) := by
  have htext : literalChars (.object members) ++ rest =
      '%' :: '\x7b' :: ([',', ' '].intercalate (members.map memberChars) ++ '\x7d' :: rest) := by
    simp [literalChars_object]
  have hstep : ∀ cs, readTerm (depth + 1) ('%' :: '\x7b' :: cs) =
      (readEnclosed (readMember (readTerm depth)) '\x7d' cs).map fun (members, rest) =>
        (.object members, rest) :=
    fun _ => rfl
  rw [htext, hstep, readEnclosed_intercalate (by decide), Option.map_some]
  · intro member hmember c hc rest
    exact readMember_memberChars (hread member hmember c hc rest)
  · exact fun _ => rfl

end Depth

/-- A term is read as its value, and nothing behind it is. An item of a term is shorter than the
term, so a depth of the term's length is enough. -/
theorem readTerm_literalChars_append {value : Json} {depth : Nat} {rest : List Char}
    (hdepth : (literalChars value).length ≤ depth)
    (hrest : ∀ c ∈ rest.head?, isNumeric c = false) :
    readTerm depth (literalChars value ++ rest) = some (value, rest) := by
  induction depth generalizing value rest with
  | zero => exact absurd (List.eq_nil_of_length_eq_zero (by omega)) (literalChars_ne_nil value)
  | succ depth ih =>
      cases value with
      | null => rfl
      | bool b => cases b <;> rfl
      | number n => exact readTerm_number n depth hrest
      | string s => exact readTerm_string s rest
      | array items =>
          apply readTerm_array
          intro item hitem c hc rest
          apply ih
          · have hlt := length_literalChars_lt_array hitem
            omega
          · rintro _ ⟨⟩
            rcases hc with rfl | rfl <;> rfl
      | object members =>
          apply readTerm_object
          intro member hmember c hc rest
          apply ih
          · have hlt := length_literalChars_lt_object hmember
            omega
          · rintro _ ⟨⟩
            rcases hc with rfl | rfl <;> rfl

theorem readLiteral_literal (value : Json) : readLiteral (literal value) = some value := by
  have hread : readTerm (literalChars value).length (literalChars value ++ []) = some (value, []) :=
    readTerm_literalChars_append (Nat.le_refl _) (by simp)
  rw [List.append_nil] at hread
  rw [readLiteral, literal, String.length_ofList, String.toList_ofList, hread]

end Terms

theorem literal_injective : Function.Injective literal := by
  intro v w heq
  have hread := readLiteral_literal v
  rw [heq, readLiteral_literal w] at hread
  exact (Option.some.inj hread).symm

/-- One reader gives back every value from its term, so no two values share a term, and neither do
two defaults of fields. -/
theorem literals_read_back :
    (∀ value : Json, readLiteral (literal value) = some value) ∧
    (∀ v w : Json, literal v = literal w → v = w) ∧
    ∀ f g : Schema.Field, (FieldText.ofField f).default = (FieldText.ofField g).default →
      f.default = g.default := by
  refine ⟨readLiteral_literal, literal_injective, ?_⟩
  intro f g heq
  exact Option.map_injective literal_injective heq

/-- A list of one string that looks like the end of a list and a map, and a list of two strings. -/
theorem literals_read_back_delimiters :
    readLiteral (literal (.array [.string "\", %\x7b\"", .object [("=> ", .null)]])) =
        some (.array [.string "\", %\x7b\"", .object [("=> ", .null)]]) ∧
      literal (.array [.string "a\", \"b"]) ≠ literal (.array [.string "a", .string "b"]) :=
  ⟨literals_read_back.1 _, fun heq => absurd (literals_read_back.2.1 _ _ heq) (by simp)⟩

end Lexgen.Emit
