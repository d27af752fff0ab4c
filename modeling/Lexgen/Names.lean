import Lexgen.Path
import Lexgen.Text.Case
import Lexgen.Text.Snake

/-!
Names and references. The definition `key` of the document `nsid` is emitted as the module named by
the two in title case; references are resolved by that rule alone:

* `#label` inside `com.atproto.label.defs` is `Com.Atproto.Label.Defs.Label`;
* `com.atproto.repo.strongRef` is `Com.Atproto.Repo.StrongRef.Main`;
* `com.atproto.label.defs#label` is `Com.Atproto.Label.Defs.Label`.
-/

namespace Lexgen

open Lexgen.Text

namespace Names

/-- A segment in title case: its hyphens dropped, each part between them capitalized. -/
def titleSegment (segment : List Char) : List Char :=
  (splitAtChar '-' segment).flatMap capitalizeChars

def titleChars (dotted : List Char) : List Char :=
  ['.'].intercalate ((splitAtChar '.' dotted).map titleSegment)

/-- A dotted name in title case, segment by segment. -/
def titleCase (dotted : String) : String := String.ofList (titleChars dotted.toList)

/-- The part of an NSID before its last dot and the name after it. -/
def splitNsid (nsid : String) : String × String :=
  match cutLast '.' nsid.toList with
  | some (before, after) => (String.ofList before, String.ofList after)
  | none => ("", nsid)

/-- The module of a definition. -/
def moduleName (nsid key : String) : String := titleCase nsid ++ "." ++ capitalize key

/-- The directory of a document below the output root, a component for each segment. -/
def directory (nsid : String) : Path := Path.ofNames (segments '.' nsid)

/-- The name of the table that holds a document's records. -/
def sourceName (nsid : String) : String :=
  "_".intercalate ((segments '.' nsid).map snakeCase)

end Names

/-- The definition that a reference names. -/
structure Reference where
  nsid : String
  key : String
  deriving DecidableEq, Repr

namespace Reference

/-- The key of a document's principal definition. -/
def mainKey : String := "main"

/-- Reads a reference found in the document `enclosing`. A reference that starts with `#` names a
definition of that document; one without a name after `#` means `main`. -/
def parse (enclosing reference : String) : Reference :=
  match cutFirst '#' reference.toList with
  | none => ⟨reference, mainKey⟩
  | some (nsid, key) =>
    ⟨if nsid.isEmpty then enclosing else String.ofList nsid,
      if key.isEmpty then mainKey else String.ofList key⟩

/-- The text of a reference that means the same in every document. -/
def qualified (r : Reference) : String := r.nsid ++ "#" ++ r.key

/-- The module of the definition. -/
def moduleName (r : Reference) : String := Names.moduleName r.nsid r.key

end Reference

end Lexgen
