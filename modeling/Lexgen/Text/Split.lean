namespace Lexgen.Text

/-- The pieces between the characters that `isMark` accepts. There is always at least one piece,
and there are as many marks as gaps between pieces. -/
def splitBy (isMark : Char → Bool) : List Char → List (List Char)
  | [] => [[]]
  | c :: rest =>
    if isMark c then [] :: splitBy isMark rest
    else
      match splitBy isMark rest with
      | [] => [[c]]
      | piece :: pieces => (c :: piece) :: pieces

def splitAtChar (mark : Char) (cs : List Char) : List (List Char) :=
  splitBy (· == mark) cs

/-- The segments of a string between occurrences of `mark`. -/
def segments (mark : Char) (s : String) : List String :=
  (splitAtChar mark s.toList).map String.ofList

/-- The text before and after the first `mark`. -/
def cutFirst (mark : Char) : List Char → Option (List Char × List Char)
  | [] => none
  | c :: rest =>
    if c = mark then some ([], rest)
    else (cutFirst mark rest).map fun (before, after) => (c :: before, after)

/-- The text before and after the last `mark`. -/
def cutLast (mark : Char) : List Char → Option (List Char × List Char)
  | [] => none
  | c :: rest =>
    match cutLast mark rest with
    | some (before, after) => some (c :: before, after)
    | none => if c = mark then some ([], rest) else none

/-- The text with `new` in the place of each occurrence of `mark`, from left to right, after the
first `skip` characters, which are still those of an occurrence. -/
def replaceFrom (mark new : List Char) : Nat → List Char → List Char
  | _, [] => []
  | skip + 1, _ :: rest => replaceFrom mark new skip rest
  | 0, c :: rest =>
    if mark.isPrefixOf (c :: rest) then new ++ replaceFrom mark new (mark.length - 1) rest
    else c :: replaceFrom mark new 0 rest

def replaceAll (mark new cs : List Char) : List Char := replaceFrom mark new 0 cs

end Lexgen.Text
