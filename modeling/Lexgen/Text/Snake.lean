import Lexgen.Text.Case
import Lexgen.Text.Split

/-!
Snake case: the words of a text, in lower case, joined by underscores. A word ends at a character
that is neither letter nor digit, between a lower-case and an upper-case letter, and before the
last of several upper-case letters that a lower-case letter follows.
-/

namespace Lexgen.Text

/-- The case of the last letter with a case in the current word. -/
inductive WordCase where
  | none
  | lower
  | upper
  deriving DecidableEq, Repr

/-- The case after `c`, were `c` to continue the word. -/
def WordCase.after (current : WordCase) (c : Char) : WordCase :=
  if isLowercase c then .lower else if isUppercase c then .upper else current

/-- Cuts a run of letters and digits into words; `word` holds the current word, last character
first. -/
def wordsFrom (current : WordCase) (word : List Char) : List Char → List (List Char)
  | [] => []
  | [c] => [(c :: word).reverse]
  | c :: next :: rest =>
    if current.after c = .lower ∧ isUppercase next then
      (c :: word).reverse :: wordsFrom .none [] (next :: rest)
    else if current = .upper ∧ isUppercase c ∧ isLowercase next then
      word.reverse :: wordsFrom .none [c] (next :: rest)
    else
      wordsFrom (current.after c) (c :: word) (next :: rest)

/-- The words of a text. -/
def words (cs : List Char) : List (List Char) :=
  (splitBy (fun c => !isAlphanumeric c) cs).flatMap (wordsFrom .none [])

/-- A word in lower case; a capital sigma at its end becomes the final small sigma. -/
def lowerWord : List Char → List Char
  | [] => []
  | [c] => if c = 'Σ' then ['ς'] else lowerForm c
  | c :: rest => lowerForm c ++ lowerWord rest

def snakeChars (cs : List Char) : List Char :=
  ['_'].intercalate ((words cs).map lowerWord)

def snakeCase (s : String) : String :=
  String.ofList (snakeChars s.toList)

end Lexgen.Text
