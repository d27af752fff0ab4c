import Lexgen.Text.Case
import Lexgen.Text.VisibleTable

namespace Lexgen.Text

/-- Whether a character can be shown as it stands. -/
def isVisible (c : Char) : Bool :=
  if isAscii c then 0x20 ≤ c.toNat && c.toNat < 0x7F
  else !unprintablePoints.holds c.toNat && !extendingPoints.holds c.toNat

/-- The escape of a character by its code point. -/
def codeEscape (c : Char) : List Char :=
  ['\\', 'u', '{'] ++ Nat.toDigits 16 c.toNat ++ ['}']

/-- A character inside a text delimited by `quote`. -/
def showInside (quote c : Char) : List Char :=
  if c = '\x00' then ['\\', '0']
  else if c = '\t' then ['\\', 't']
  else if c = '\n' then ['\\', 'n']
  else if c = '\r' then ['\\', 'r']
  else if c = '\\' || c = quote then ['\\', c]
  else if isVisible c then [c]
  else codeEscape c

/-- A character between single quotes. -/
def showChar (c : Char) : String :=
  String.ofList ('\'' :: showInside '\'' c ++ ['\''])

/-- A string between double quotes. -/
def showString (s : String) : String :=
  String.ofList ('"' :: s.toList.flatMap (showInside '"') ++ ['"'])

end Lexgen.Text
