import Lexgen.Schema.Field

namespace Lexgen.Emit

open Lexgen.Schema

/-- The names for a primary key, best first. -/
def keyCandidate : Nat → String
  | 0 => "id"
  | 1 => "rkey"
  | n + 2 => "rkey_" ++ toString (n + 2)

/-- The first candidate from number `n` on that is not taken, among `fuel` of them. -/
def freeCandidate? (taken : List String) : Nat → Nat → Option String
  | 0, _ => none
  | fuel + 1, n =>
    if taken.contains (keyCandidate n) then freeCandidate? taken fuel (n + 1)
    else some (keyCandidate n)

/-- The first name for a primary key that no field has. One of as many candidates as there are
fields, and one more, is free. -/
def primaryKeyName (fields : List Field) : String :=
  let taken := fields.map (·.name)
  (freeCandidate? taken (taken.length + 1) 0).getD ""

end Lexgen.Emit
