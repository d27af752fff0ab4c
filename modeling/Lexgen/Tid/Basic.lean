import Lexgen.Text.Pattern
import Lexgen.Text.Utf8
import Lexgen.Text.Visible

/-!
Timestamp identifiers (TIDs): 64-bit words written as thirteen digits in base 32. The digits'
characters ascend with their values, so that texts of equal length sort as the words do. The ten
low bits of a word are a clock identifier, the bits above it a time in microseconds.
-/

namespace Lexgen

open Lexgen.Text

/-- A timestamp identifier, held as the word it encodes. -/
structure Tid where
  word : UInt64
  deriving DecidableEq, Repr

namespace Tid

/-- The digits in order of their values. -/
def alphabet : List Char :=
  ['2', '3', '4', '5', '6', '7', 'a', 'b', 'c', 'd', 'e', 'f', 'g', 'h', 'i', 'j',
   'k', 'l', 'm', 'n', 'o', 'p', 'q', 'r', 's', 't', 'u', 'v', 'w', 'x', 'y', 'z']

/-- The number of digits of a TID. -/
def width : Nat := 13

/-- The low bits of the word that hold the clock identifier. -/
def clockBits : Nat := 10

/-- The entry of a byte that is no digit. -/
def noDigit : UInt8 := 255

/-- The values of digits by their bytes. -/
def digitTable : Vector UInt8 256 :=
  alphabet.zipIdx.foldl
    (fun table (c, value) => table.setIfInBounds c.toNat (UInt8.ofNat value))
    (.replicate 256 noDigit)

/-- What the table has for a byte. -/
def entry (b : UInt8) : UInt8 := digitTable.get ⟨b.toNat, b.toNat_lt⟩

/-- The digit of a value below 32. -/
def digit (value : Nat) : Char := alphabet.getD value '2'

/-- The digits of the `length` lowest groups of five bits, lowest first. -/
def lowDigits : Nat → UInt64 → List Char
  | 0, _ => []
  | length + 1, word => digit (word &&& 0x1F).toNat :: lowDigits length (word >>> 5)

/-- The thirteen digits of a TID. -/
def text (tid : Tid) : String := String.ofList (lowDigits width tid.word).reverse

/-- The word that bytes spell. The entries of the table are added up as they are, also that of a
byte that is no digit. -/
def readWord (bytes : Bytes) : UInt64 :=
  bytes.foldl (fun word b => word * 32 + (entry b).toUInt64) 0

/-- The texts of TIDs: thirteen digits, of which the first has a value below sixteen, as four bits
are left for it in the word. -/
def grammar : Pattern :=
  .seq (.one "234567abcdefghij".toList.contains)
    (.times 12 (.one "234567abcdefghijklmnopqrstuvwxyz".toList.contains))

/-- Why a string is no TID. -/
inductive Error where
  | length (actual : Nat)
  | invalidChar (char : Char) (offset : Nat)
  | leadingChar (char : Char)
  deriving DecidableEq, Repr

namespace Error

def message : Error → String
  | .length actual => s!"TID must be {width} characters, got {actual}"
  | .invalidChar char offset => s!"invalid character {showChar char} at offset {offset}"
  | .leadingChar char => s!"leading character {showChar char} is out of range"

def code : Error → String
  | .length _ => "tid::length"
  | .invalidChar _ _ => "tid::character"
  | .leadingChar _ => "tid::leading_char"

def help : Error → Option String
  | .length _ => none
  | .invalidChar _ _ => some "TIDs use the alphabet 234567abcdefghijklmnopqrstuvwxyz"
  | .leadingChar _ => some "the first character must be one of 234567abcdefghij"

def url (_ : Error) : String := "https://atproto.com/specs/tid"

end Error

/-- Whether the table has a value for a character. Only ASCII is looked up. -/
def isDigit (c : Char) : Bool :=
  if hascii : c.toNat < 128 then
    digitTable.get ⟨c.toNat, Nat.lt_trans hascii (by decide)⟩ != noDigit
  else false

/-- The first character that is no digit, with the number of bytes before it. -/
def firstForeign? (offset : Nat) : List Char → Option (Char × Nat)
  | [] => none
  | c :: rest =>
    if isDigit c then firstForeign? (offset + c.utf8Size) rest else some (c, offset)

/-- What is wrong with a text of the right length that is no TID. -/
def blame (cs : List Char) : Error :=
  match firstForeign? 0 cs with
  | some (c, offset) => .invalidChar c offset
  | none => .leadingChar (cs.headD '?')

/-- Reads a TID. The length is checked first, in bytes. -/
def parse (s : String) : Except Error Tid :=
  if s.utf8ByteSize ≠ width then .error (.length s.utf8ByteSize)
  else if grammar.matchesAll s.toList then .ok ⟨readWord (encode s)⟩
  else .error (blame s.toList)

/-- The time in microseconds. -/
def timestamp (tid : Tid) : UInt64 := tid.word >>> 10

/-- The clock identifier. -/
def clockId (tid : Tid) : UInt64 := tid.word &&& 0x3FF

/-- The two halves of a TID. -/
structure Parts where
  timestamp : UInt64
  clockId : UInt16
  deriving DecidableEq, Repr

def parts (tid : Tid) : Parts where
  timestamp := tid.timestamp
  clockId := tid.clockId.toUInt16

/-- Reads the halves of a TID. -/
def decode (s : String) : Except Error Parts := (parse s).map parts

/-- The TID of a time and a clock. Of the time the low 53 bits are kept, of the clock the low ten;
the top bit is clear. -/
def ofParts (timestamp : UInt64) (clock : UInt32) : Tid :=
  ⟨(timestamp <<< 10) &&& 0x7FFFFFFFFFFFFC00 ||| (clock.toUInt64 &&& 0x3FF)⟩

/-- The clock identifier that a random word draws: its ten top bits. -/
def drawClock (draw : UInt32) : UInt32 := draw >>> 22

end Tid

end Lexgen
