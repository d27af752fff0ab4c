namespace Lexgen.Kdl

inductive Value where
  | string (text : String)
  | integer (value : Int)
  /-- A number that is no integer, as it is written. -/
  | real (text : String)
  | bool (value : Bool)
  | null
  deriving DecidableEq, Repr

/-- A value of a node; one with a name is a property. -/
structure Entry where
  name : Option String := none
  value : Value
  deriving DecidableEq, Repr

structure Node where
  name : String
  entries : List Entry
  children : Option (List Node)
  deriving Repr

end Lexgen.Kdl
