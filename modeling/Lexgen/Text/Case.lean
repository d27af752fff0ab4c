import Lexgen.Text.CaseTable
import Lexgen.Text.LetterTable

namespace Lexgen.Text

def isAscii (c : Char) : Bool := c.toNat < 128

/-- A letter or a digit of any script. -/
def isAlphanumeric (c : Char) : Bool :=
  if isAscii c then c.isAlphanum
  else alphabeticPoints.holds c.toNat || numericPoints.holds c.toNat

def isUppercase (c : Char) : Bool :=
  if isAscii c then c.isUpper else uppercasePoints.holds c.toNat

def isLowercase (c : Char) : Bool :=
  if isAscii c then c.isLower else lowercasePoints.holds c.toNat

/-- The upper-case form of a character, which may be several characters. -/
def upperForm (c : Char) : List Char :=
  if isAscii c then [c.toUpper]
  else
    match toUpperSequences.find? (·.1 == c.toNat) with
    | some (_, points) => points.map Char.ofNat
    | none => [((toUpperShifts.image? c.toNat).map Char.ofNat).getD c]

/-- The lower-case form of a character: two characters for the dotted capital I, else one. -/
def lowerForm (c : Char) : List Char :=
  if isAscii c then [c.toLower]
  else if c = 'İ' then ['i', '\u0307']
  else [((toLowerShifts.image? c.toNat).map Char.ofNat).getD c]

/-- The first character in upper case, the others as they are. -/
def capitalizeChars : List Char → List Char
  | [] => []
  | c :: rest => upperForm c ++ rest

def capitalize (s : String) : String :=
  String.ofList (capitalizeChars s.toList)

end Lexgen.Text
