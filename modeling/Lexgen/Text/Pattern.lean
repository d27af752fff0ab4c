/-!
Patterns of characters: regular expressions, matched by derivatives. The derivative of a pattern
by a character matches what may follow that character, so a text matches when the pattern left
after all its characters matches the empty text.
-/

namespace Lexgen.Text

inductive Pattern where
  /-- Matches nothing. -/
  | never
  /-- Matches the empty text. -/
  | nothing
  /-- Matches one character of a class. -/
  | one (accepts : Char → Bool)
  | seq (first second : Pattern)
  | either (left right : Pattern)
  /-- Matches any number of repetitions, none included. -/
  | many (body : Pattern)

namespace Pattern

/-- The sequence of two patterns, without the parts that cannot matter. -/
def andThen : Pattern → Pattern → Pattern
  | .never, _ => .never
  | .nothing, q => q
  | p, q => .seq p q

/-- The choice of two patterns, without the side that cannot match. -/
def orElse : Pattern → Pattern → Pattern
  | .never, q => q
  | p, .never => p
  | p, q => .either p q

/-- Whether the empty text matches. -/
def matchesEmpty : Pattern → Bool
  | .never => false
  | .nothing => true
  | .one _ => false
  | .seq p q => p.matchesEmpty && q.matchesEmpty
  | .either p q => p.matchesEmpty || q.matchesEmpty
  | .many _ => true

/-- What may follow the character `c`. -/
def derivative (c : Char) : Pattern → Pattern
  | .never => .never
  | .nothing => .never
  | .one accepts => if accepts c then .nothing else .never
  | .seq p q =>
    if p.matchesEmpty then ((p.derivative c).andThen q).orElse (q.derivative c)
    else (p.derivative c).andThen q
  | .either p q => (p.derivative c).orElse (q.derivative c)
  | .many p => (p.derivative c).andThen (.many p)

/-- Whether a text as a whole matches. -/
def matchesAll (p : Pattern) (cs : List Char) : Bool :=
  (cs.foldl (fun p c => p.derivative c) p).matchesEmpty

def optional (p : Pattern) : Pattern := .either .nothing p

def atLeastOnce (p : Pattern) : Pattern := .seq p (.many p)

/-- At most `n` repetitions. -/
def upTo : Nat → Pattern → Pattern
  | 0, _ => .nothing
  | n + 1, p => optional (.seq p (upTo n p))

/-- Exactly `n` repetitions. -/
def times : Nat → Pattern → Pattern
  | 0, _ => .nothing
  | n + 1, p => .seq p (times n p)

end Pattern

end Lexgen.Text
