import Lexgen.Json.Printer

namespace Lexgen.Emit

/-- A character of a string literal, given the one after it. A sharp is escaped where a brace
would make it an interpolation. -/
def escapeChar (c : Char) (next : Option Char) : List Char :=
  if c = '"' then ['\\', '"']
  else if c = '\\' then ['\\', '\\']
  else if c = '\n' then ['\\', 'n']
  else if c = '\r' then ['\\', 'r']
  else if c = '\t' then ['\\', 't']
  else if c = '#' ∧ next = some '\x7b' then ['\\', '#']
  else [c]

def escapeChars : List Char → List Char
  | [] => []
  | c :: rest => escapeChar c rest.head? ++ escapeChars rest

def quotedChars (cs : List Char) : List Char := '"' :: escapeChars cs ++ ['"']

/-- A string literal. -/
def quoted (s : String) : String := String.ofList (quotedChars s.toList)

def isAtomStart (c : Char) : Bool := c.isLower || c == '_'

def isAtomRest (c : Char) : Bool := c.isAlphanum || c == '_'

def isBareChars : List Char → Bool
  | [] => false
  | c :: rest => isAtomStart c && rest.all isAtomRest

/-- Whether a name can be an atom without quotes. -/
def isBareAtom (name : String) : Bool := isBareChars name.toList

/-- A name, in quotes where it has to be. -/
def nameText (name : String) : String := if isBareAtom name then name else quoted name

/-- An atom: `:name` or `:"odd name"`. -/
def atom (name : String) : String := ":" ++ nameText name

/-- The key of a keyword list or a map of atoms: `name:` or `"odd name":`. -/
def keywordKey (name : String) : String := nameText name ++ ":"

mutual

/-- A JSON value as a term. -/
def literalChars : Json → List Char
  | .null => "nil".toList
  | .bool true => "true".toList
  | .bool false => "false".toList
  | .number n => n.chars
  | .string s => quotedChars s.toList
  | .array items => '[' :: [',', ' '].intercalate (literalItems items) ++ [']']
  | .object members =>
    '%' :: '\x7b' :: [',', ' '].intercalate (literalMembers members) ++ ['\x7d']

def literalItems : List Json → List (List Char)
  | [] => []
  | item :: rest => literalChars item :: literalItems rest

def literalMembers : List (String × Json) → List (List Char)
  | [] => []
  | (key, value) :: rest =>
    (quotedChars key.toList ++ " => ".toList ++ literalChars value) :: literalMembers rest

end

/-- A JSON value as a term. -/
def literal (value : Json) : String := String.ofList (literalChars value)

/-- A list of terms. -/
def listOf (terms : List String) : String := "[" ++ ", ".intercalate terms ++ "]"

/-- A map of the given entries. -/
def mapOf (entries : List String) : String := "%\x7b" ++ ", ".intercalate entries ++ "\x7d"

end Lexgen.Emit
