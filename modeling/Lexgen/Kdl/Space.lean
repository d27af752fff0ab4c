namespace Lexgen.Kdl

/-- The spaces within a line. -/
def isSpace (c : Char) : Bool :=
  let n := c.toNat
  n == 0x9 || n == 0x20 || n == 0xA0 || n == 0x1680 || (0x2000 ≤ n && n ≤ 0x200A) ||
    n == 0x202F || n == 0x205F || n == 0x3000

def isNewline (c : Char) : Bool :=
  let n := c.toNat
  (0xA ≤ n && n ≤ 0xD) || n == 0x85 || n == 0x2028 || n == 0x2029

/-- Characters that may not appear as they are. -/
def isForbidden (c : Char) : Bool :=
  let n := c.toNat
  n ≤ 0x8 || (0xE ≤ n && n ≤ 0x1F) || n == 0x7F || (0x200E ≤ n && n ≤ 0x200F) ||
    (0x202A ≤ n && n ≤ 0x202E) || (0x2066 ≤ n && n ≤ 0x2069) || n == 0xFEFF

/-- What follows a newline at the start of the text. -/
def afterNewline? : List Char → Option (List Char)
  | '\r' :: '\n' :: rest => some rest
  | c :: rest => if isNewline c then some rest else none
  | [] => none

/-- What follows the end of a comment of which `depth` inner comments are open. -/
def afterComment? (depth : Nat) : List Char → Option (List Char)
  | '*' :: '/' :: rest => if depth = 0 then some rest else afterComment? (depth - 1) rest
  | '/' :: '*' :: rest => afterComment? (depth + 1) rest
  | _ :: rest => afterComment? depth rest
  | [] => none

/-- What follows a space or a comment at the start of the text. -/
def afterBlank? : List Char → Option (List Char)
  | '/' :: '*' :: rest => afterComment? 0 rest
  | c :: rest => if isSpace c then some rest else none
  | [] => none

/-- What follows a comment to the end of the line, the newline included. -/
def afterLineComment? : List Char → Option (List Char)
  | '/' :: '/' :: rest =>
    let rest := rest.dropWhile fun c => !isNewline c
    some ((afterNewline? rest).getD rest)
  | _ => none

/-- Repeats a step as long as it succeeds, at most `fuel` times. -/
def skipWith (step : List Char → Option (List Char)) : Nat → List Char → List Char
  | 0, cs => cs
  | fuel + 1, cs =>
    match step cs with
    | some rest => skipWith step fuel rest
    | none => cs

/-- Repeats a step that takes a character at least. -/
def skipAll (step : List Char → Option (List Char)) (cs : List Char) : List Char :=
  skipWith step cs.length cs

/-- What follows a continued line: a backslash, and nothing but spaces and a comment before the
newline or the end. -/
def afterContinuation? : List Char → Option (List Char)
  | '\\' :: rest =>
    let rest := skipAll afterBlank? rest
    if rest.isEmpty then some [] else afterLineComment? rest <|> afterNewline? rest
  | _ => none

/-- The text without the space before the next token of a node. -/
def skipNodeSpace (cs : List Char) : List Char :=
  skipAll (fun cs => afterBlank? cs <|> afterContinuation? cs) cs

/-- The text without the space before the next node. -/
def skipLineSpace (cs : List Char) : List Char :=
  skipAll (fun cs => afterBlank? cs <|> afterContinuation? cs <|> afterNewline? cs <|>
    afterLineComment? cs) cs

end Lexgen.Kdl
