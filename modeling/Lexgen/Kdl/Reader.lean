import Lexgen.Kdl.Basic
import Lexgen.Kdl.Strings
import Lexgen.Number.Word

namespace Lexgen.Kdl

/-- Digits with underscores between and after them, the first being a digit. -/
def digits? (isDigit : Char → Bool) (cs : List Char) : Option (List Char × List Char) :=
  match cs with
  | c :: _ =>
    if isDigit c then
      let accepts (c : Char) : Bool := isDigit c || c == '_'
      some (cs.takeWhile accepts, cs.dropWhile accepts)
    else none
  | [] => none

/-- An integer of 128 bits. -/
def integer? (negative : Bool) (magnitude : Nat) : Option Value :=
  let n : Int := if negative then -(magnitude : Int) else magnitude
  if -Word.half128 ≤ n ∧ n < Word.half128 then some (.integer n) else none

/-- The digits of an exponent. -/
def exponent? (cs : List Char) : Option (List Char) :=
  match cs with
  | c :: rest =>
    if c = 'e' || c = 'E' then
      let rest := if (rest.head?.map isSign).getD false then rest.tail else rest
      (digits? Char.isDigit rest).map (·.2)
    else none
  | [] => none

/-- The fractional digits after a point. -/
def fraction? (cs : List Char) : Option (List Char) :=
  match cs with
  | '.' :: rest => (digits? Char.isDigit rest).map (·.2)
  | _ => none

/-- A number after its sign. -/
def unsigned? (negative : Bool) (cs : List Char) : Option (Value × List Char) :=
  match cs with
  | '0' :: 'x' :: rest => based 16 (fun c => (hexValue? c).isSome) rest
  | '0' :: 'o' :: rest => based 8 (fun c => '0' ≤ c && c ≤ '7') rest
  | '0' :: 'b' :: rest => based 2 (fun c => c == '0' || c == '1') rest
  | _ => do
    let (whole, rest) ← digits? Char.isDigit cs
    let afterFraction := (fraction? rest).getD rest
    let afterNumber := (exponent? afterFraction).getD afterFraction
    if afterNumber.length < rest.length then
      return (.real (String.ofList (cs.take (cs.length - afterNumber.length))), afterNumber)
    else return (← integer? negative (digitsValue 10 whole), rest)
where
  based (base : Nat) (isDigit : Char → Bool) (cs : List Char) : Option (Value × List Char) := do
    let (digits, rest) ← digits? isDigit cs
    return (← integer? negative (digitsValue base digits), rest)

/-- A number. -/
def number? (cs : List Char) : Option (Value × List Char) :=
  match cs with
  | '-' :: rest => unsigned? true rest
  | '+' :: rest => unsigned? false rest
  | _ => unsigned? false cs

/-- A word after a hash. -/
def keyword? (cs : List Char) : Option (Value × List Char) :=
  match cs with
  | '#' :: rest =>
    let word := rest.takeWhile isIdentifierChar
    let after := rest.dropWhile isIdentifierChar
    match String.ofList word with
    | "true" => some (.bool true, after)
    | "false" => some (.bool false, after)
    | "null" => some (.null, after)
    | "inf" => some (.real "inf", after)
    | "-inf" => some (.real "-inf", after)
    | "nan" => some (.real "nan", after)
    | _ => none
  | _ => none

/-- What follows a type annotation, if there is one. -/
def afterType? (cs : List Char) : Option (List Char) :=
  match cs with
  | '(' :: rest => do
    let (_, rest) ← string? (skipNodeSpace rest)
    match skipNodeSpace rest with
    | ')' :: rest => some (skipNodeSpace rest)
    | _ => none
  | _ => some cs

/-- A value with or without a type. -/
def value? (cs : List Char) : Option (Value × List Char) := do
  let cs ← afterType? cs
  (string? cs).map (fun (text, rest) => (Value.string text, rest)) <|> keyword? cs <|> number? cs

/-- A property or a value. -/
def entry? (cs : List Char) : Option (Entry × List Char) :=
  let property : Option (Entry × List Char) := do
    let (name, rest) ← string? cs
    match skipNodeSpace rest with
    | '=' :: rest => do
      let (value, rest) ← value? (skipNodeSpace rest)
      return ({ name := some name, value }, rest)
    | _ => none
  property <|> (value? cs).map fun (value, rest) => ({ value := value }, rest)

/-- Whether a text goes on with an entry of the node, rather than with a block or its end. -/
def beginsEntry (cs : List Char) : Bool :=
  match cs with
  | [] => false
  | '/' :: '/' :: _ => false
  | c :: _ => !(isNewline c || c == ';' || c == '{' || c == '}')

/-- The entries of a node. Each is set off by space; one after a slash and a hyphen is left
out. -/
def entriesFrom : Nat → List Char → Option (List Entry × List Char)
  | 0, _ => none
  | fuel + 1, cs =>
    let next := skipNodeSpace cs
    match next with
    | '/' :: '-' :: rest =>
      let rest := skipLineSpace rest
      if rest.head? = some '{' then some ([], next)
      else do
        let (_, rest) ← entry? rest
        entriesFrom fuel rest
    | _ =>
      if !beginsEntry next then some ([], next)
      else if next.length < cs.length then do
        let (entry, rest) ← entry? next
        let (entries, rest) ← entriesFrom fuel rest
        return (entry :: entries, rest)
      else none

/-- What follows the end of a node. A closing bracket ends the last node of a block. -/
def afterNode? (inBlock : Bool) (cs : List Char) : Option (List Char) :=
  match cs with
  | [] => some []
  | ';' :: rest => some rest
  | '}' :: _ => if inBlock then some cs else none
  | _ => afterLineComment? cs <|> afterNewline? cs

mutual

/-- A node up to its end. -/
def nodeFrom : Nat → List Char → Option (Node × List Char)
  | 0, _ => none
  | fuel + 1, cs => do
    let cs ← afterType? cs
    let (name, rest) ← string? cs
    let (entries, rest) ← entriesFrom (rest.length + 1) rest
    let (children, rest) ← blocksFrom fuel none rest
    return ({ name, entries, children }, rest)

/-- The block of a node, and the blocks before and after it that are left out. -/
def blocksFrom : Nat → Option (List Node) → List Char → Option (Option (List Node) × List Char)
  | 0, _, _ => none
  | fuel + 1, children, cs =>
    match skipNodeSpace cs with
    | '{' :: rest =>
      if children.isSome then none
      else do
        let (nodes, rest) ← nodesFrom fuel true rest
        blocksFrom fuel (some nodes) rest
    | '/' :: '-' :: rest =>
      match skipLineSpace rest with
      | '{' :: rest => do
        let (_, rest) ← nodesFrom fuel true rest
        blocksFrom fuel children rest
      | _ => none
    | rest => some (children, rest)

/-- The nodes up to the end of the text, or up to the closing bracket of a block. -/
def nodesFrom : Nat → Bool → List Char → Option (List Node × List Char)
  | 0, _, _ => none
  | fuel + 1, inBlock, cs =>
    match skipLineSpace cs with
    | [] => if inBlock then none else some ([], [])
    | '}' :: rest => if inBlock then some ([], rest) else none
    | '/' :: '-' :: rest => do
      let (_, rest) ← nodeFrom fuel (skipLineSpace rest)
      nodesFrom fuel inBlock (← afterNode? inBlock rest)
    | rest => do
      let (node, rest) ← nodeFrom fuel rest
      let (nodes, rest) ← nodesFrom fuel inBlock (← afterNode? inBlock rest)
      return (node :: nodes, rest)

end

/-- Reads a document; nothing if the text is no KDL. Between two calls that read nodes a character
is read at least, so a multiple of the length is enough fuel. -/
def parse (text : String) : Option (List Node) :=
  let cs := text.toList
  let cs := if cs.head? = some '\uFEFF' then cs.tail else cs
  (nodesFrom (3 * cs.length + 3) false cs).map (·.1)

end Lexgen.Kdl
