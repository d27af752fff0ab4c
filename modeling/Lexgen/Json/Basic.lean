import Lexgen.Number.Decimal
import Lexgen.Number.Word

namespace Lexgen

/-- A number is an integer between `-2 ^ 63` and `2 ^ 64 - 1`, or a float, held as the shortest
decimal that names it. -/
inductive Number where
  | integer (value : Int)
  | real (value : NormalDecimal)
  deriving DecidableEq, Repr

/-- A JSON value. A reader keeps the members of an object in ascending order of their keys with one
member a key; a printer writes them in the order of the list. -/
inductive Json where
  | null
  | bool (value : Bool)
  | number (value : Number)
  | string (value : String)
  | array (items : List Json)
  | object (members : List (String × Json))
  deriving Repr

/-- A list of keys and values with the value of `key` set, in ascending order of keys. -/
def setMember {α : Type} (key : String) (value : α) : List (String × α) → List (String × α)
  | [] => [(key, value)]
  | (k, v) :: rest =>
    if key < k then (key, value) :: (k, v) :: rest
    else if key = k then (key, value) :: rest
    else (k, v) :: setMember key value rest

/-- The value of the first member with a key. -/
def findMember? {α : Type} (key : String) : List (String × α) → Option α
  | [] => none
  | (k, v) :: rest => if k = key then some v else findMember? key rest

namespace Json

instance : Inhabited Json := ⟨.null⟩

/-- The member of an object; nothing for other values. -/
def get? (key : String) : Json → Option Json
  | .object members => findMember? key members
  | _ => none

def string? : Json → Option String
  | .string s => some s
  | _ => none

def items? : Json → Option (List Json)
  | .array items => some items
  | _ => none

def members? : Json → Option (List (String × Json))
  | .object members => some members
  | _ => none

/-- The string in a member. -/
def getString? (key : String) (node : Json) : Option String :=
  (node.get? key).bind string?

/-- An integer that fits 64 bits with a sign. -/
def int64? : Json → Option Int
  | .number (.integer n) => if -Word.half64 ≤ n ∧ n < Word.half64 then some n else none
  | _ => none

/-- An object of the members that are present. -/
def ofFields (fields : List (String × Option Json)) : Json :=
  .object (fields.filterMap fun (key, value) => value.map (key, ·))

def ofInt (n : Int) : Json := .number (.integer n)

def ofNat (n : Nat) : Json := .number (.integer n)

def strings (values : List String) : Json := .array (values.map .string)

end Json

end Lexgen
