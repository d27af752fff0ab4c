import Mathlib.Data.List.Nodup
import Mathlib.Data.Nat.Find
import Lexgen.Artifact
import Lexgen.Proofs.Emit.TermReading

namespace Lexgen.Emit

open Lexgen.Schema

section Lines

end Lines

section Tables

def startsWith (start line : String) : Bool := start.toList.isPrefixOf line.toList

/-- A line that gives the atom `atom` after the text `start`, with options behind it. -/
def GivesAtom (start atom line : String) : Prop :=
  ∃ options, line = start ++ atom ++ ", " ++ options

theorem GivesAtom.startsWith {start atom line : String} (hgives : GivesAtom start atom line) :
    startsWith start line = true := by
  obtain ⟨options, rfl⟩ := hgives
  simp [Emit.startsWith]

theorem not_startsWith_of_startsWith {start other line : String}
    (hline : startsWith other line = true) (hstart : startsWith start other = false)
    (hother : startsWith other start = false) : startsWith start line = false := by
  simp only [startsWith, ← Bool.not_eq_true, List.isPrefixOf_iff_prefix] at hline hstart hother ⊢
  intro hboth
  rcases List.prefix_or_prefix_of_prefix hboth hline with h | h
  · exact hstart h
  · exact hother h

theorem givesAtom_primaryKeyLine (file : RecordFile) :
    GivesAtom "  @primary_key \x7b" file.primaryKeyAtom file.primaryKeyLine := by
  unfold RecordFile.primaryKeyLine
  cases file.primaryKey with
  | sequentialInteger =>
      refine ⟨":id, autogenerate: true\x7d", ?_⟩
      simp [← String.toList_inj]
  | sortableId =>
      refine ⟨":string, autogenerate: \x7b" ++ file.runtimeModule ++
        ".TID, :generate, []\x7d\x7d", ?_⟩
      simp [← String.toList_inj]

theorem givesAtom_columnLine (f : FieldText) :
    GivesAtom "    field " f.atom (RecordFile.columnLine f) := by
  unfold RecordFile.columnLine
  rw [String.append_assoc, String.append_assoc]
  exact ⟨_, rfl⟩

/-- The line is neither that of a primary key nor that of a column. -/
def IsPlain (line : String) : Prop :=
  startsWith "  @primary_key \x7b" line = false ∧ startsWith "    field " line = false

instance (line : String) : Decidable (IsPlain line) := inferInstanceAs (Decidable (_ ∧ _))

theorem isPlain_of_startsWith (other : String) {line : String} (hother : IsPlain other)
    (hkey : startsWith other "  @primary_key \x7b" = false)
    (hcolumn : startsWith other "    field " = false) (hline : startsWith other line = true) :
    IsPlain line :=
  ⟨not_startsWith_of_startsWith hline hother.1 hkey,
    not_startsWith_of_startsWith hline hother.2 hcolumn⟩

namespace RecordFile

/-- The lines before the primary key, of which the documentation counts as one. -/
def linesBefore (file : RecordFile) : List String :=
  header (some file.nsid) ++ ["defmodule " ++ file.moduleName ++ " do"] ++
    moduleDoc file.description ++ ["  use Ecto.Schema", "  import Ecto.Changeset", ""]

def tableLine (file : RecordFile) : String := "  schema " ++ quoted file.source ++ " do"

/-- The lines after the columns. -/
def linesAfter (file : RecordFile) : List String :=
  ["  end", "", "  @type t :: %__MODULE__\x7b\x7d", "",
    "  @spec changeset(t(), map()) :: Ecto.Changeset.t()"] ++ file.changesetLines ++ ["end"]

variable (file : RecordFile)

theorem text_eq_unlines : file.text =
    unlines (file.linesBefore ++ file.primaryKeyLine :: file.tableLine ::
      (file.fields.map columnLine ++ file.linesAfter)) := by
  rw [text, linesBefore, linesAfter, tableLine]
  simp only [List.append_assoc, List.cons_append, List.nil_append]

theorem isPlain_of_mem_linesBefore : ∀ line ∈ file.linesBefore, IsPlain line := by
  have hheader : ∀ line ∈ header (some file.nsid), IsPlain line := by
    have hnsid : IsPlain ("# Lexicon: " ++ file.nsid) :=
      isPlain_of_startsWith "#" (by decide) (by decide) (by decide)
        (by simp [startsWith])
    simp only [header, List.forall_mem_cons]
    exact ⟨by decide, by decide, hnsid, by decide⟩
  have hmodule : IsPlain ("defmodule " ++ file.moduleName ++ " do") :=
    isPlain_of_startsWith "defmodule " (by decide) (by decide) (by decide)
      (by simp [startsWith])
  have hdoc : ∀ line ∈ moduleDoc file.description, IsPlain line := by
    fun_cases moduleDoc file.description with
    | case1 => simp
    | case2 text =>
        have htext : IsPlain ("  @moduledoc " ++ heredoc text 2) :=
          isPlain_of_startsWith "  @moduledoc " (by decide) (by decide) (by decide)
            (by simp [startsWith])
        simpa using ⟨htext, by decide⟩
    | case3 => simp
  simp only [linesBefore, List.forall_mem_append, List.forall_mem_singleton]
  exact ⟨⟨⟨hheader, hmodule⟩, hdoc⟩, by decide⟩

theorem isPlain_tableLine : IsPlain file.tableLine :=
  isPlain_of_startsWith "  schema " (by decide) (by decide) (by decide)
    (by simp [startsWith, tableLine])

theorem isPlain_of_mem_validationStep {step : ValidationStep} :
    ∀ line ∈ step.lines, IsPlain line := by
  have hpiped {line : String} : startsWith "    |> " line = true → IsPlain line :=
    isPlain_of_startsWith "    |> " (by decide) (by decide) (by decide)
  cases step with
  | cast fields =>
      rw [ValidationStep.lines, List.forall_mem_singleton]
      exact hpiped (by simp [startsWith])
  | require fields =>
      rw [ValidationStep.lines, List.forall_mem_singleton]
      exact hpiped (by simp [startsWith])
  | check field checks =>
      intro line hline
      obtain ⟨check, -, rfl⟩ := List.mem_map.mp hline
      apply hpiped
      unfold BoundCheck.line
      simp [startsWith]

theorem isPlain_of_mem_linesAfter : ∀ line ∈ file.linesAfter, IsPlain line := by
  have hchangeset : ∀ line ∈ file.changesetLines, IsPlain line := by
    rw [changesetLines]
    split
    · decide
    · simp only [List.forall_mem_append]
      refine ⟨⟨by decide, fun line hline => ?_⟩, by decide⟩
      obtain ⟨step, -, hline⟩ := List.mem_flatMap.mp hline
      exact isPlain_of_mem_validationStep line hline
  simp only [linesAfter, List.forall_mem_append]
  exact ⟨⟨by decide, hchangeset⟩, by decide⟩

theorem exists_lines : ∃ lines, file.text = unlines lines ∧
    lines.filter (startsWith "  @primary_key \x7b") = [file.primaryKeyLine] ∧
    lines.filter (startsWith "    field ") = file.fields.map columnLine := by
  have hnone {lines : List String} {start : String}
      (hlines : ∀ line ∈ lines, startsWith start line = false) :
      lines.filter (startsWith start) = [] :=
    List.filter_eq_nil_iff.mpr fun line hline => by simp [hlines line hline]
  have hbefore := file.isPlain_of_mem_linesBefore
  have hafter := file.isPlain_of_mem_linesAfter
  have hkey := (givesAtom_primaryKeyLine file).startsWith
  have hcolumns : ∀ line ∈ file.fields.map columnLine, startsWith "    field " line = true := by
    intro line hline
    obtain ⟨f, -, rfl⟩ := List.mem_map.mp hline
    exact (givesAtom_columnLine f).startsWith
  have hkey' : startsWith "    field " file.primaryKeyLine = false :=
    not_startsWith_of_startsWith hkey (by decide) (by decide)
  have hcolumns' : ∀ line ∈ file.fields.map columnLine,
      startsWith "  @primary_key \x7b" line = false := fun line hline =>
    not_startsWith_of_startsWith (hcolumns line hline) (by decide) (by decide)
  refine ⟨_, file.text_eq_unlines, ?_, ?_⟩
  · simp only [List.filter_append, List.filter_cons, hkey, file.isPlain_tableLine.1, if_true,
      hnone fun line hline => (hbefore line hline).1, hnone hcolumns',
      hnone fun line hline => (hafter line hline).1]
    rfl
  · simp only [List.filter_append, List.filter_cons, hkey', file.isPlain_tableLine.2,
      hnone fun line hline => (hbefore line hline).2, List.filter_eq_self.mpr hcolumns,
      hnone fun line hline => (hafter line hline).2]
    simp

end RecordFile

end Tables

section Crowded

end Crowded

end Lexgen.Emit
