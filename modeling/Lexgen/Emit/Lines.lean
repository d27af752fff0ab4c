import Lexgen.Emit.Heredoc

namespace Lexgen.Emit

open Lexgen.Text

/-- A text of lines, each with its end. -/
def unlines (lines : List String) : String := String.join (lines.map (· ++ "\n"))

/-- Every file starts with this line. -/
def generatedLine : String := "# @generated by dobby-lexicon. DO NOT EDIT."

/-- The lines at the start of a file, which name the document it comes from. -/
def header : Option String → List String
  | some nsid => [generatedLine, "#", "# Lexicon: " ++ nsid, ""]
  | none => [generatedLine, ""]

/-- The documentation of a module; none for a text without visible characters. -/
def moduleDoc : Option String → List String
  | some text =>
    if text.toList.all isBlank then [] else ["  @moduledoc " ++ heredoc text 2, ""]
  | none => []

/-- The items of a list with a comma after each but the last. -/
def withCommas : List String → List String
  | [] => []
  | [item] => [item]
  | item :: rest => (item ++ ",") :: withCommas rest

end Lexgen.Emit
