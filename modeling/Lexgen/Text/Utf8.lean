/-!
UTF-8 as a machine that reads one byte at a time. Between two bytes it knows how many bytes the
current character still owes and which values the next one may have; a byte outside these bounds
is refused, and the sequence so far is one broken character.
-/

namespace Lexgen.Text

/-- A file's or a document's raw contents. -/
abbrev Bytes := List UInt8

namespace Utf8

/-- A character begun but not finished. -/
structure Pending where
  /-- The bits read so far. -/
  point : Nat
  /-- The bytes still owed, the next one included. -/
  owed : Nat
  /-- The least and the greatest value of the next byte. -/
  low : Nat
  high : Nat
  deriving DecidableEq, Repr

/-- What a byte between two characters does. -/
inductive Start where
  | complete (c : Char)
  | begun (pending : Pending)
  | refused

def start (byte : UInt8) : Start :=
  let b := byte.toNat
  if b < 0x80 then .complete (Char.ofNat b)
  else if 0xC2 ≤ b && b ≤ 0xDF then .begun ⟨b - 0xC0, 1, 0x80, 0xBF⟩
  else if b == 0xE0 then .begun ⟨0, 2, 0xA0, 0xBF⟩
  else if b == 0xED then .begun ⟨0xD, 2, 0x80, 0x9F⟩
  else if 0xE1 ≤ b && b ≤ 0xEF then .begun ⟨b - 0xE0, 2, 0x80, 0xBF⟩
  else if b == 0xF0 then .begun ⟨0, 3, 0x90, 0xBF⟩
  else if b == 0xF4 then .begun ⟨4, 3, 0x80, 0x8F⟩
  else if 0xF1 ≤ b && b ≤ 0xF3 then .begun ⟨b - 0xF0, 3, 0x80, 0xBF⟩
  else .refused

/-- What a byte inside a character does. -/
def Pending.next (p : Pending) (byte : UInt8) : Start :=
  let b := byte.toNat
  if p.low ≤ b && b ≤ p.high then
    let point := p.point * 64 + (b - 0x80)
    if p.owed ≤ 1 then .complete (Char.ofNat point)
    else .begun ⟨point, p.owed - 1, 0x80, 0xBF⟩
  else .refused

/-- The units of a byte sequence: characters, and broken sequences as `none`, each with the number
of bytes it takes. A refused byte ends the broken sequence before it and is read afresh. -/
def unitsFrom : Option (Pending × Nat) → Bytes → List (Option Char × Nat)
  | none, [] => []
  | some (_, read), [] => [(none, read)]
  | none, b :: rest =>
    match start b with
    | .complete c => (some c, 1) :: unitsFrom none rest
    | .begun p => unitsFrom (some (p, 1)) rest
    | .refused => (none, 1) :: unitsFrom none rest
  | some (p, read), b :: rest =>
    match p.next b with
    | .complete c => (some c, read + 1) :: unitsFrom none rest
    | .begun p => unitsFrom (some (p, read + 1)) rest
    | .refused =>
      (none, read) ::
        match start b with
        | .complete c => (some c, 1) :: unitsFrom none rest
        | .begun p => unitsFrom (some (p, 1)) rest
        | .refused => (none, 1) :: unitsFrom none rest

def units (bytes : Bytes) : List (Option Char × Nat) := unitsFrom none bytes

/-- The text with every broken sequence replaced by the replacement character. -/
def decodeLossy (bytes : Bytes) : String :=
  String.ofList ((units bytes).map fun (c, _) => c.getD '�')

/-- The text of a byte sequence without broken parts. -/
def decode? (bytes : Bytes) : Option String :=
  ((units bytes).mapM (Prod.fst : Option Char × Nat → Option Char)).map String.ofList

/-- How many bytes stand before the first broken sequence. -/
def validLength (bytes : Bytes) : Nat :=
  ((units bytes).takeWhile (·.1.isSome)).foldl (fun total (_, length) => total + length) 0

end Utf8

/-- The bytes of a string in UTF-8. -/
def encode (s : String) : Bytes := s.toUTF8.data.toList

end Lexgen.Text
