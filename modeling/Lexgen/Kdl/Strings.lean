import Lexgen.Kdl.Space
import Lexgen.Text.Split

/-!
The strings of a KDL document: bare identifiers, quoted strings with escapes, raw strings, and
strings over several lines, of which the indentation of the last line is taken off every line.
-/

namespace Lexgen.Kdl

open Lexgen.Text

/-- The characters that have a meaning of their own outside strings. -/
def reservedChars : List Char :=
  ['\\', '/', '(', ')', '\x7b', '\x7d', ';', '[', ']', '"', '#', '=']

def isIdentifierChar (c : Char) : Bool :=
  !isSpace c && !isNewline c && !isForbidden c && !reservedChars.contains c

def isSign (c : Char) : Bool := c == '+' || c == '-'

/-- Whether a word could be taken for a number: a digit, possibly after a sign and a point. -/
def looksNumeric : List Char → Bool
  | c :: rest =>
    if isSign c then
      match rest with
      | '.' :: d :: _ => d.isDigit
      | d :: _ => d.isDigit
      | [] => false
    else if c = '.' then (rest.head?.map Char.isDigit).getD false
    else c.isDigit
  | [] => false

/-- The words that stand for no string. -/
def reservedWords : List String := ["true", "false", "null", "inf", "-inf", "nan"]

/-- A bare identifier. -/
def identifier? (cs : List Char) : Option (String × List Char) :=
  let word := cs.takeWhile isIdentifierChar
  let text := String.ofList word
  if word.isEmpty || looksNumeric word || reservedWords.contains text then none
  else some (text, cs.dropWhile isIdentifierChar)

def hexValue? (c : Char) : Option Nat :=
  if c.isDigit then some (c.toNat - 48)
  else if 'a' ≤ c && c ≤ 'f' then some (c.toNat - 87)
  else if 'A' ≤ c && c ≤ 'F' then some (c.toNat - 55)
  else none

/-- The number that digits of a base spell, underscores left out. -/
def digitsValue (base : Nat) (digits : List Char) : Nat :=
  (digits.filterMap hexValue?).foldl (fun n d => n * base + d) 0

/-- The character of an escape by number, of one to six digits. -/
def codePoint? (digits : List Char) : Option Char :=
  let n := digitsValue 16 digits
  if digits.isEmpty || 6 < digits.length || !digits.all (fun c => (hexValue? c).isSome) then none
  else if n < 0xD800 || (0xDFFF < n && n < 0x110000) then some (Char.ofNat n)
  else none

/-- An escape after its backslash: a character, or nothing for white space that is left out. -/
def escape? : List Char → Option (Option Char × List Char)
  | 'n' :: rest => some (some '\n', rest)
  | 'r' :: rest => some (some '\r', rest)
  | 't' :: rest => some (some '\t', rest)
  | '\\' :: rest => some (some '\\', rest)
  | '"' :: rest => some (some '"', rest)
  | 'b' :: rest => some (some '\x08', rest)
  | 'f' :: rest => some (some '\x0c', rest)
  | 's' :: rest => some (some ' ', rest)
  | 'u' :: '{' :: rest => do
    let (digits, rest) ← cutFirst '}' rest
    return (some (← codePoint? digits), rest)
  | c :: rest =>
    if isSpace c || isNewline c then
      some (none, rest.dropWhile fun c => isSpace c || isNewline c)
    else none
  | [] => none

/-- The contents of a quoted string on one line, with at most `fuel` characters. -/
def quotedFrom : Nat → List Char → Option (List Char × List Char)
  | 0, _ => none
  | _ + 1, [] => none
  | fuel + 1, c :: rest =>
    if c = '"' then some ([], rest)
    else if c = '\\' then do
      let (char, rest) ← escape? rest
      let (more, rest) ← quotedFrom fuel rest
      return (char.toList ++ more, rest)
    else if isNewline c || isForbidden c then none
    else do
      let (more, rest) ← quotedFrom fuel rest
      return (c :: more, rest)

/-- A piece of a string over several lines: a character as it stands, or one that an escape
stands for, which is no indentation and no newline. -/
abbrev Piece := Char × Bool

/-- The pieces of a string over several lines up to its closing quotes. Every newline becomes a
line feed. -/
def linesFrom : Nat → List Char → Option (List Piece × List Char)
  | 0, _ => none
  | _ + 1, [] => none
  | fuel + 1, c :: rest =>
    match c, rest with
    | '"', '"' :: '"' :: after => some ([], after)
    | '\\', _ => do
      let (char, rest) ← escape? rest
      let (more, rest) ← linesFrom fuel rest
      return (char.toList.map (·, true) ++ more, rest)
    | _, _ =>
      match afterNewline? (c :: rest) with
      | some after => do
        let (more, rest) ← linesFrom fuel after
        return (('\n', false) :: more, rest)
      | none =>
        if isForbidden c then none
        else do
          let (more, rest) ← linesFrom fuel rest
          return ((c, false) :: more, rest)

/-- The pieces of a raw string over several lines, which `close` ends. -/
def rawLinesFrom (close : List Char) : Nat → List Char → Option (List Piece × List Char)
  | 0, _ => none
  | _ + 1, [] => none
  | fuel + 1, c :: rest =>
    if close.isPrefixOf (c :: rest) then some ([], (c :: rest).drop close.length)
    else
      match afterNewline? (c :: rest) with
      | some after => do
        let (more, rest) ← rawLinesFrom close fuel after
        return (('\n', false) :: more, rest)
      | none =>
        if isForbidden c then none
        else do
          let (more, rest) ← rawLinesFrom close fuel rest
          return ((c, false) :: more, rest)

/-- Cuts pieces into lines. -/
def splitLines : List Piece → List (List Piece)
  | [] => [[]]
  | p :: rest =>
    if p = ('\n', false) then [] :: splitLines rest
    else
      match splitLines rest with
      | [] => [[p]]
      | line :: lines => (p :: line) :: lines

def isBlankPiece (p : Piece) : Bool := isSpace p.1 && !p.2

/-- Takes the indentation off a line. A line of spaces only becomes empty. -/
def dedent (indent line : List Piece) : Option (List Char) :=
  if line.all isBlankPiece then some []
  else if indent.isPrefixOf line then some ((line.drop indent.length).map (·.1))
  else none

/-- The text of a string over several lines: its last line is the indentation of the others. -/
def joinLines (pieces : List Piece) : Option String :=
  match (splitLines pieces).reverse with
  | [] => none
  | indent :: lines =>
    if indent.all isBlankPiece then do
      let lines ← lines.reverse.mapM (dedent indent)
      return String.ofList (['\n'].intercalate lines)
    else none

/-- A quoted string after its first quote. -/
def quoted? (cs : List Char) : Option (String × List Char) :=
  match cs with
  | '"' :: '"' :: rest => do
    let rest ← afterNewline? rest
    let (pieces, rest) ← linesFrom (rest.length + 1) rest
    return (← joinLines pieces, rest)
  | _ => do
    let (text, rest) ← quotedFrom (cs.length + 1) cs
    return (String.ofList text, rest)

/-- The text before the first `close`, on one line. -/
def untilClose (close : List Char) : List Char → Option (List Char × List Char)
  | [] => none
  | c :: rest =>
    if close.isPrefixOf (c :: rest) then some ([], (c :: rest).drop close.length)
    else if isNewline c || isForbidden c then none
    else (untilClose close rest).map fun (text, rest) => (c :: text, rest)

/-- A raw string: as many hashes at the end as at the start. -/
def raw? (cs : List Char) : Option (String × List Char) :=
  let hashes := cs.takeWhile (· == '#')
  if hashes.isEmpty then none
  else
    match cs.dropWhile (· == '#') with
    | '"' :: '"' :: '"' :: rest => do
      let rest ← afterNewline? rest
      let (pieces, rest) ← rawLinesFrom (['"', '"', '"'] ++ hashes) (rest.length + 1) rest
      return (← joinLines pieces, rest)
    | '"' :: rest => do
      let (text, rest) ← untilClose ('"' :: hashes) rest
      return (String.ofList text, rest)
    | _ => none

/-- A string of any kind. -/
def string? (cs : List Char) : Option (String × List Char) :=
  match cs with
  | '"' :: rest => quoted? rest
  | '#' :: _ => raw? cs
  | _ => identifier? cs

end Lexgen.Kdl
