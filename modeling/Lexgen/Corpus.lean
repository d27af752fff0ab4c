import Lexgen.Lexicon.Basic

namespace Lexgen

/-- The lexicons in ascending order of their NSIDs, one for each. -/
structure Corpus where
  lexicons : List (String × Lexicon) := []

namespace Corpus

def get? (c : Corpus) (nsid : String) : Option Lexicon := findMember? nsid c.lexicons

/-- Adds a lexicon in place of any that has its NSID. -/
def insert (c : Corpus) (l : Lexicon) : Corpus := ⟨setMember l.nsid l c.lexicons⟩

def ofList (lexicons : List Lexicon) : Corpus := lexicons.foldl insert {}

def size (c : Corpus) : Nat := c.lexicons.length

def isEmpty (c : Corpus) : Bool := c.lexicons.isEmpty

/-- The lexicon and the key that a reference names, if there is such an entry. -/
def resolve? (c : Corpus) (reference : String) : Option (Lexicon × String) :=
  let r := Reference.parse "" reference
  match c.get? r.nsid with
  | some l => if l.hasKey r.key then some (l, r.key) else none
  | none => none

def holds (c : Corpus) (reference : String) : Bool := (c.resolve? reference).isSome

/-- The references without an entry, each with the NSID of its document. -/
def unresolved (c : Corpus) : List (String × String) :=
  c.lexicons.flatMap fun (nsid, l) =>
    (l.references.filter fun reference => !c.holds reference).map (nsid, ·)

end Corpus

end Lexgen
