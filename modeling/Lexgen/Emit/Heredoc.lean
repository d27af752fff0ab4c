import Lexgen.Text.Blank
import Lexgen.Text.Split

namespace Lexgen.Emit

open Lexgen.Text

def tripleQuote : List Char := ['"', '"', '"']

/-- What an interpolation starts with. -/
def interpolation : List Char := ['#', '\x7b']

/-- A line of text with its backslashes, triple quotes and interpolations escaped. -/
def escapeLine (line : List Char) : List Char :=
  let slashes := replaceAll ['\\'] ['\\', '\\'] line
  let quotes := replaceAll tripleQuote ('\\' :: tripleQuote) slashes
  replaceAll interpolation ('\\' :: interpolation) quotes

/-- A line of a heredoc, with its end. Lines without text are not indented. -/
def heredocLine (indent : Nat) (line : List Char) : List Char :=
  let escaped := escapeLine (trimEnd line)
  (if escaped.isEmpty then [] else List.replicate indent ' ' ++ escaped) ++ ['\n']

def heredocChars (indent : Nat) (text : List Char) : List Char :=
  tripleQuote ++ ['\n'] ++ (lines (trimEnd text)).flatMap (heredocLine indent) ++
    List.replicate indent ' ' ++ tripleQuote

/-- A text as a heredoc whose lines are indented. White space at the end of lines and of the text
is dropped. -/
def heredoc (text : String) (indent : Nat) : String :=
  String.ofList (heredocChars indent text.toList)

end Lexgen.Emit
