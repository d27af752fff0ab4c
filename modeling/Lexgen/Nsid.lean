import Lexgen.Text.Pattern

namespace Lexgen.Nsid

open Lexgen.Text

/-- The greatest length of an NSID, in bytes. -/
def maxLength : Nat := 317

def isLetter (c : Char) : Bool := c.isAlpha

def isLetterOrDigit (c : Char) : Bool := c.isAlphanum

def isInner (c : Char) : Bool := c.isAlphanum || c == '-'

/-- What may follow the first character of a domain segment: nothing, or up to 61 letters, digits
and hyphens and then a letter or digit. -/
def domainTail : Pattern :=
  .optional (.seq (.upTo 61 (.one isInner)) (.one isLetterOrDigit))

/-- The grammar: a domain segment that starts with a letter, one or more further domain segments,
and a name of at most 63 letters and digits that starts with a letter. -/
def grammar : Pattern :=
  .seq (.seq (.one isLetter) domainTail) <|
    .seq (.atLeastOnce (.seq (.one (· == '.')) (.seq (.one isLetterOrDigit) domainTail))) <|
      .seq (.one (· == '.')) (.seq (.one isLetter) (.upTo 62 (.one isLetterOrDigit)))

/-- Why a string is no NSID. -/
inductive Error where
  | tooLong (actual : Nat)
  | invalid (nsid : String)
  deriving DecidableEq, Repr

namespace Error

def message : Error → String
  | .tooLong actual => s!"NSID is {actual} characters, the maximum is {maxLength}"
  | .invalid nsid => "`" ++ nsid ++ "` is not a valid NSID"

def code : Error → String
  | .tooLong _ => "nsid::length"
  | .invalid _ => "nsid::syntax"

def help : Error → Option String
  | .tooLong _ => none
  | .invalid _ => some <|
    "an NSID looks like com.example.fooBar: dotted domain segments, " ++
      "then a name of letters and digits"

def url (_ : Error) : String := "https://atproto.com/specs/nsid"

end Error

/-- Accepts the NSIDs. Length is checked before the grammar, in bytes. -/
def validate (nsid : String) : Except Error Unit :=
  if maxLength < nsid.utf8ByteSize then .error (.tooLong nsid.utf8ByteSize)
  else if grammar.matchesAll nsid.toList then .ok ()
  else .error (.invalid nsid)

end Lexgen.Nsid
