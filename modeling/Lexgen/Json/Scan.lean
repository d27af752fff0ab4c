import Lexgen.Json.Fault
import Lexgen.Number.Binary64

/-!
Reading the parts of a JSON text from the bytes that are left: white space, literals, strings and
numbers. A fault records how many bytes are left at its place. Faults about a byte that was seen but
not read lie behind that byte.
-/

namespace Lexgen.Json

open Lexgen.Text

/-- A fault with the bytes left after its place; the column lies `back` bytes before it. -/
structure Failure where
  fault : Fault
  left : Nat
  back : Nat := 0

/-- A step that reads from the bytes that are left. -/
abbrev Scan := StateT Bytes (Except Failure)

namespace Scan

/-- Fails behind the bytes read so far. -/
def fail {α : Type} (fault : Fault) : Scan α :=
  fun rest => .error { fault, left := rest.length }

/-- Fails behind the next byte, or at the end if there is none. -/
def failAtNext {α : Type} (fault : Fault) : Scan α :=
  fun rest => .error { fault, left := rest.length - 1 }

/-- The next byte, not read. -/
def peek? : Scan (Option UInt8) := fun rest => .ok (rest.head?, rest)

/-- Skips a byte. -/
def skip : Scan Unit := fun rest => .ok ((), rest.tail)

/-- Reads a byte. -/
def next? : Scan (Option UInt8) := fun rest => .ok (rest.head?, rest.tail)

/-- Reads the bytes up to the first that `p` refuses. -/
def takeWhile (p : UInt8 → Bool) : Scan Bytes := fun rest => .ok (rest.span p)

def isSpace (b : UInt8) : Bool := b == 32 || b == 10 || b == 13 || b == 9

def isDigit (b : UInt8) : Bool := 48 ≤ b && b ≤ 57

/-- Skips white space and shows the next byte. -/
def peekToken? : Scan (Option UInt8) := do
  let _ ← takeWhile isSpace
  peek?

/-- Reads the rest of a literal. -/
def literal : Bytes → Scan Unit
  | [] => pure ()
  | expected :: rest => do
    match ← next? with
    | none => fail .endInValue
    | some b => if b = expected then literal rest else fail .expectedIdent

/-- A hexadecimal digit. -/
def hexDigit? (b : UInt8) : Option Nat :=
  if 48 ≤ b && b ≤ 57 then some (b.toNat - 48)
  else if 97 ≤ b && b ≤ 102 then some (b.toNat - 87)
  else if 65 ≤ b && b ≤ 70 then some (b.toNat - 55)
  else none

/-- The value of the four digits of an escape. -/
def hexValue? (a b c d : UInt8) : Option Nat := do
  let a ← hexDigit? a
  let b ← hexDigit? b
  let c ← hexDigit? c
  let d ← hexDigit? d
  pure (((a * 16 + b) * 16 + c) * 16 + d)

/-- The four digits of an escape, read as one. -/
def hexEscape : Scan Nat := fun rest =>
  match rest with
  | a :: b :: c :: d :: rest =>
    match hexValue? a b c d with
    | some n => .ok (n, rest)
    | none => .error { fault := .invalidEscape, left := rest.length }
  | _ => .error { fault := .endInString, left := 0 }

/-- The second half of a pair of surrogates. -/
def lowSurrogate : Scan Nat := do
  let expect (b : UInt8) : Scan Unit := do
    match ← next? with
    | none => fail .endInString
    | some found => if found = b then pure () else fail .cutHexEscape
  expect 92
  expect 117
  let low ← hexEscape
  if 0xDC00 ≤ low && low ≤ 0xDFFF then pure low else fail .loneSurrogate

/-- The character of an escape by number. -/
def unicodeEscape : Scan Char := do
  let n ← hexEscape
  if 0xDC00 ≤ n && n ≤ 0xDFFF then fail .loneSurrogate
  else if 0xD800 ≤ n && n ≤ 0xDBFF then do
    let low ← lowSurrogate
    pure (Char.ofNat ((n - 0xD800) * 0x400 + (low - 0xDC00) + 0x10000))
  else pure (Char.ofNat n)

/-- The escapes of one letter. -/
def letterEscape? (b : UInt8) : Option UInt8 :=
  if b = 34 || b = 92 || b = 47 then some b
  else if b = 98 then some 8
  else if b = 102 then some 12
  else if b = 110 then some 10
  else if b = 114 then some 13
  else if b = 116 then some 9
  else none

/-- The bytes that stand for an escape, after the backslash. -/
def escape : Scan Bytes := do
  match ← next? with
  | none => fail .endInString
  | some b =>
    match letterEscape? b with
    | some byte => pure [byte]
    | none =>
      if b = 117 then return encode (String.singleton (← unicodeEscape))
      else fail .invalidEscape

/-- Whether a byte stands for itself inside a string. -/
def isPlain (b : UInt8) : Bool := 32 ≤ b && b ≠ 34 && b ≠ 92

/-- The contents of a string up to its closing quote, with at most `fuel` escapes. -/
def stringBytes : Nat → Scan Bytes
  | 0 => fail .endInString
  | fuel + 1 => do
    let plain ← takeWhile isPlain
    match ← next? with
    | none => fail .endInString
    | some 34 => pure plain
    | some 92 => do
      let escaped ← escape
      return plain ++ escaped ++ (← stringBytes fuel)
    | some _ => fail .controlCharacter

/-- A string after its opening quote. Its bytes have to be UTF-8; the place of a broken sequence
is counted back from the closing quote. -/
def stringRest : Scan String := fun rest => do
  let (bytes, rest) ← stringBytes (rest.length + 1) rest
  match Utf8.decode? bytes with
  | some s => .ok (s, rest)
  | none =>
    .error {
      fault := .invalidCodePoint
      left := rest.length
      back := bytes.length - Utf8.validLength bytes }

/-- The greatest exponent that is read to its end. -/
def maxExponent : Nat := 2147483647

/-- The digits of an exponent after the first; nothing once it grows beyond `maxExponent`. The
digit that does so is read, the others are not. -/
def exponentFrom (value : Nat) : Bytes → Option Nat × Bytes
  | [] => (some value, [])
  | b :: rest =>
    if isDigit b then
      let value := value * 10 + (b.toNat - 48)
      if maxExponent < value then (none, rest) else exponentFrom value rest
    else (some value, b :: rest)

/-- The number that digits spell. -/
def digitsValue (digits : Bytes) : Nat :=
  digits.foldl (fun n b => n * 10 + (b.toNat - 48)) 0

/-- The float of a decimal, or a fault if it is too great. -/
def float (d : Decimal) : Scan Number :=
  match d.toFloat? with
  | some d => pure (.real d)
  | none => fail .numberOutOfRange

/-- The exponent of a float and the float. An exponent that is too great to be read makes the
number too great, or nought if its sign is negative or the coefficient is nought. -/
def exponentPart (d : Decimal) : Scan Number := do
  skip
  let negative ← match ← peek? with
    | some 43 => do skip; pure false
    | some 45 => do skip; pure true
    | _ => pure false
  match ← next? with
  | none => fail .endInValue
  | some b =>
    if !isDigit b then fail .invalidNumber
    else
      match ← (fun rest => .ok (exponentFrom (b.toNat - 48) rest) : Scan (Option Nat)) with
      | some e =>
        float ⟨d.negative, d.coefficient, if negative then d.exponent - e else d.exponent + e⟩
      | none =>
        if d.coefficient ≠ 0 && !negative then fail .numberOutOfRange
        else do
          let _ ← takeWhile isDigit
          pure (.real (.zero d.negative))

/-- The digits after a decimal point, and what follows them. -/
def fractionPart (negative : Bool) (whole : Bytes) : Scan Number := do
  skip
  let places ← takeWhile isDigit
  let after ← peek?
  if places.isEmpty then
    match after with
    | some _ => failAtNext .invalidNumber
    | none => failAtNext .endInValue
  else
    let d : Decimal := ⟨negative, digitsValue (whole ++ places), -(places.length : Int)⟩
    match after with
    | some 101 | some 69 => exponentPart d
    | _ => float d

/-- An integer that is in range, else the float nearest to it. Nought has a sign only as a
float. -/
def wholeNumber (negative : Bool) (n : Nat) : Scan Number :=
  if negative then
    if 0 < n && n ≤ Word.half64 then pure (.integer (-(n : Int))) else float ⟨true, n, 0⟩
  else if n < Word.size64 then pure (.integer n)
  else float ⟨false, n, 0⟩

/-- A number after its sign. -/
def unsignedNumber (negative : Bool) : Scan Number := do
  match ← next? with
  | none => fail .endInValue
  | some b =>
    if !isDigit b then fail .invalidNumber
    else do
      let more ← if b = 48 then pure [] else takeWhile isDigit
      let digits := b :: more
      match ← peek? with
      | some 46 => fractionPart negative digits
      | some 101 | some 69 => exponentPart ⟨negative, digitsValue digits, 0⟩
      | some c =>
        if isDigit c then failAtNext .invalidNumber
        else wholeNumber negative (digitsValue digits)
      | none => wholeNumber negative (digitsValue digits)

end Scan

end Lexgen.Json
