import Lexgen.Json.Printer
import Lexgen.Text.Utf8
import Lexgen.Text.Visible

namespace Lexgen.Json

open Lexgen.Text

/-- A place in a text: the line counted from one, and the number of bytes before it on its
line. -/
structure Position where
  line : Nat
  column : Nat
  deriving DecidableEq, Repr

/-- The place after `count` bytes. -/
def Position.after (bytes : Bytes) (count : Nat) : Position :=
  let before := bytes.take count
  ⟨1 + before.count 10, (before.reverse.takeWhile (· ≠ 10)).length⟩

/-- What stands where a value of another kind is expected. -/
inductive Found where
  | null
  | boolean (value : Bool)
  | integer (value : Int)
  | real (value : NormalDecimal)
  | string (value : String)
  | sequence
  | map
  deriving DecidableEq, Repr

def Found.text : Found → String
  | .null => "null"
  | .boolean b => "boolean `" ++ toString b ++ "`"
  | .integer n => "integer `" ++ (Number.integer n).text ++ "`"
  | .real d => "floating point `" ++ (Number.real d).text ++ "`"
  | .string s => "string " ++ showString s
  | .sequence => "sequence"
  | .map => "map"

/-- What a value is called in a message. -/
def Found.of : Json → Found
  | .null => .null
  | .bool b => .boolean b
  | .number (.integer n) => .integer n
  | .number (.real d) => .real d
  | .string s => .string s
  | .array _ => .sequence
  | .object _ => .map

/-- What kind of value is expected. -/
inductive Expected where
  | word32
  | string
  | map
  | document
  deriving DecidableEq, Repr

def Expected.text : Expected → String
  | .word32 => "u32"
  | .string => "a string"
  | .map => "a map"
  | .document => "struct LexiconDoc"

inductive Fault where
  | endInValue
  | endInObject
  | endInList
  | endInString
  | expectedValue
  | expectedIdent
  | expectedColon
  | expectedListSeparator
  | expectedObjectSeparator
  | keyNotString
  | trailingComma
  | trailingCharacters
  | invalidNumber
  | numberOutOfRange
  | controlCharacter
  | invalidEscape
  | loneSurrogate
  | cutHexEscape
  | invalidCodePoint
  | recursionLimit
  | wrongKind (found : Found) (expected : Expected)
  /-- An integer outside the range of 32-bit words. -/
  | wrongValue (value : Int)
  | duplicateField (name : String)
  | missingField (name : String)
  | tooFewElements (count : Nat)
  | tooManyElements (count : Nat)
  deriving DecidableEq, Repr

def Fault.message : Fault → String
  | .endInValue => "EOF while parsing a value"
  | .endInObject => "EOF while parsing an object"
  | .endInList => "EOF while parsing a list"
  | .endInString => "EOF while parsing a string"
  | .expectedValue => "expected value"
  | .expectedIdent => "expected ident"
  | .expectedColon => "expected `:`"
  | .expectedListSeparator => "expected `,` or `]`"
  | .expectedObjectSeparator => "expected `,` or `\x7d`"
  | .keyNotString => "key must be a string"
  | .trailingComma => "trailing comma"
  | .trailingCharacters => "trailing characters"
  | .invalidNumber => "invalid number"
  | .numberOutOfRange => "number out of range"
  | .controlCharacter => "control character (\\u0000-\\u001F) found while parsing a string"
  | .invalidEscape => "invalid escape"
  | .loneSurrogate => "lone leading surrogate in hex escape"
  | .cutHexEscape => "unexpected end of hex escape"
  | .invalidCodePoint => "invalid unicode code point"
  | .recursionLimit => "recursion limit exceeded"
  | .wrongKind found expected => "invalid type: " ++ found.text ++ ", expected " ++ expected.text
  | .wrongValue value =>
    "invalid value: " ++ (Found.integer value).text ++ ", expected " ++ Expected.word32.text
  | .duplicateField name => "duplicate field `" ++ name ++ "`"
  | .missingField name => "missing field `" ++ name ++ "`"
  | .tooFewElements count =>
    "invalid length " ++ toString count ++ ", expected " ++ Expected.document.text ++
      " with 5 elements"
  | .tooManyElements count =>
    "invalid length " ++ toString count ++ ", expected fewer elements in array"

/-- A fault in a value has no place, one in a text has. -/
structure Error where
  fault : Fault
  position : Option Position := none
  deriving DecidableEq, Repr

def Error.message (e : Error) : String :=
  match e.position with
  | none => e.fault.message
  | some p => e.fault.message ++ s!" at line {p.line} column {p.column}"

end Lexgen.Json
