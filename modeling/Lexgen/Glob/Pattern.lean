import Lexgen.Text.Split

/-!
Patterns of paths: `?` stands for a character, `*` for any characters of a component, `[abc]`,
`[a-c]` and `[!abc]` for a character of a class or outside it, and the component `**` for any number
of directories.
-/

namespace Lexgen.Glob

open Lexgen.Text

/-- A class of characters, as ranges. -/
abbrev Class := List (Char × Char)

def Class.holds (ranges : Class) (c : Char) : Bool :=
  ranges.any fun (low, high) => low ≤ c && c ≤ high

/-- The ranges that the text between brackets lists. -/
def Class.ofChars : List Char → Class
  | [] => []
  | low :: '-' :: high :: rest => (low, high) :: ofChars rest
  | c :: rest => (c, c) :: ofChars rest

inductive Token where
  | char (c : Char)
  | anyChar
  | anySequence
  | anyDirectories
  | within (ranges : Class)
  | outside (ranges : Class)
  deriving DecidableEq, Repr

/-- What is wrong with a pattern. -/
inductive Flaw where
  | wildcards
  | recursiveWildcards
  | range
  deriving DecidableEq, Repr

def Flaw.message : Flaw → String
  | .wildcards => "wildcards are either regular `*` or recursive `**`"
  | .recursiveWildcards => "recursive wildcards must form a single path component"
  | .range => "invalid range pattern"

/-- A flaw and the number of characters before it. -/
structure Error where
  position : Nat
  flaw : Flaw
  deriving DecidableEq, Repr

def Error.message (e : Error) : String :=
  s!"Pattern syntax error near position {e.position}: " ++ e.flaw.message

/-- A class after its opening bracket, with the characters after the closing one. The first
character of a class never closes it. -/
def class? : List Char → Option (Token × List Char)
  | '!' :: first :: rest => close .outside first rest
  | '!' :: [] => none
  | first :: rest => close .within first rest
  | [] => none
where
  close (token : Class → Token) (first : Char) (rest : List Char) :
      Option (Token × List Char) :=
    (cutFirst ']' rest).map fun (inner, after) => (token (.ofChars (first :: inner)), after)

/-- The tokens of a pattern from the character at `position` on, of which `before` is the
character in front. Each token takes a character at least, so the number of characters is enough
fuel. -/
def tokensFrom : Nat → Nat → Option Char → List Char → Except Error (List Token)
  | 0, _, _, _ => .ok []
  | _ + 1, _, _, [] => .ok []
  | fuel + 1, position, before, c :: rest =>
    if c = '?' then return .anyChar :: (← tokensFrom fuel (position + 1) (some c) rest)
    else if c = '[' then
      match class? rest with
      | none => .error ⟨position, .range⟩
      | some (token, after) =>
        return token ::
          (← tokensFrom fuel (position + 1 + (rest.length - after.length)) (some ']') after)
    else if c = '*' then
      let stars := (c :: rest).takeWhile (· == '*')
      let after := (c :: rest).dropWhile (· == '*')
      if 2 < stars.length then .error ⟨position + 2, .wildcards⟩
      else if stars.length = 2 then
        if before.all (· == '/') then
          match after with
          | [] => return [.anyDirectories]
          | next :: after =>
            if next = '/' then
              return .anyDirectories :: (← tokensFrom fuel (position + 3) (some '/') after)
            else .error ⟨position + 2, .recursiveWildcards⟩
        else .error ⟨position - 1, .recursiveWildcards⟩
      else return .anySequence :: (← tokensFrom fuel (position + 1) (some c) rest)
    else return .char c :: (← tokensFrom fuel (position + 1) (some c) rest)

/-- The tokens of a pattern. -/
def tokens (pattern : List Char) : Except Error (List Token) :=
  tokensFrom pattern.length 0 none pattern

/-- Whether a token accepts a single character. -/
def Token.accepts : Token → Char → Bool
  | .char expected, c => c == expected
  | .anyChar, _ => true
  | .within ranges, c => ranges.holds c
  | .outside ranges, c => !ranges.holds c
  | .anySequence, _ => false
  | .anyDirectories, _ => false

/-- Whether a test holds of the text or of what is left of it after some characters. -/
def someRest (test : List Char → Bool) : List Char → Bool
  | [] => test []
  | c :: cs => test (c :: cs) || someRest test cs

/-- Whether a name matches the tokens of a component. -/
def matchesName : List Token → List Char → Bool
  | [], cs => cs.isEmpty
  | .anySequence :: tokens, cs => someRest (matchesName tokens) cs
  | _ :: _, [] => false
  | token :: tokens, c :: cs => token.accepts c && matchesName tokens cs

/-- A component of a pattern. -/
inductive Piece where
  /-- A component without wildcards names an entry. -/
  | literal (name : String)
  | wild (tokens : List Token)
  | directories
  deriving DecidableEq, Repr

/-- The characters of tokens that are all characters. -/
def literalChars? (tokens : List Token) : Option (List Char) :=
  tokens.mapM fun token =>
    match token with
    | .char c => some c
    | _ => none

def Piece.ofTokens (tokens : List Token) : Piece :=
  if tokens = [.anyDirectories] then .directories
  else
    match literalChars? tokens with
    | some cs => .literal (String.ofList cs)
    | none => .wild tokens

/-- A pattern taken apart. -/
structure Pattern where
  /-- Whether the pattern starts at the root. -/
  absolute : Bool
  pieces : List Piece
  /-- Whether only directories are meant, as the pattern ends in a slash. -/
  directoriesOnly : Bool

/-- Components with several in a row for any directories made into one. -/
def mergeDirectories : List Piece → List Piece
  | [] => []
  | piece :: rest =>
    match mergeDirectories rest with
    | .directories :: merged =>
      if piece = .directories then .directories :: merged else piece :: .directories :: merged
    | merged => piece :: merged

/-- The components of a pattern: between slashes, without the last if it is empty. -/
def splitComponents (pattern : List Char) : List (List Char) :=
  let parts := splitAtChar '/' pattern
  if parts.getLast? = some [] then parts.dropLast else parts

/-- Reads a pattern. The pattern as a whole is checked first, then each component. -/
def Pattern.parse (pattern : String) : Except Error Pattern := do
  let cs := pattern.toList
  let _ ← tokens cs
  let absolute := cs.head? = some '/'
  let relative := cs.dropWhile (· == '/')
  let pieces ← (splitComponents relative).mapM fun part => return Piece.ofTokens (← tokens part)
  return {
    absolute
    pieces := if relative.isEmpty then [.literal ""] else mergeDirectories pieces
    directoriesOnly := cs.getLast? = some '/' }

end Lexgen.Glob
