import TangibleBlocks.Url.Percent

/-!
Paths of addresses, segment by segment. A segment of one dot goes nowhere; one
of two dots takes the segment before it away, unless that names a drive. The
paths of files may begin with a drive, which is written with a colon.
-/

namespace TangibleBlocks.Url

/-- Tabs and line breaks, which may stand anywhere in an address and mean nothing. -/
def isGap (c : Char) : Bool :=
  c == '\t' || c == '\n' || c == '\r'

def withoutGaps (cs : List Char) : List Char :=
  cs.filter fun c => !isGap c

/-- A segment with its escaped dots written out. -/
def dots (segment : List Char) : List Char :=
  match segment with
  | '%' :: '2' :: 'e' :: rest => '.' :: dots rest
  | '%' :: '2' :: 'E' :: rest => '.' :: dots rest
  | c :: rest => c :: dots rest
  | [] => []

def isSingleDot (segment : List Char) : Bool :=
  dots segment == ['.']

def isDoubleDot (segment : List Char) : Bool :=
  dots segment == ['.', '.']

/-! ### Drives -/

/-- A letter and a colon, or a bar in its place. -/
def isDrive (segment : List Char) : Bool :=
  match segment with
  | [a, b] => a.isAlpha && (b == ':' || b == '|')
  | _ => false

/-- Whether a segment begins with a drive, which may be set off from the rest by a backslash. -/
def beginsWithDrive (segment : List Char) : Bool :=
  match segment with
  | a :: b :: '\\' :: _ => isDrive [a, b]
  | _ => isDrive segment

/-- A drive and the text behind it, if nothing but gaps sets them apart. -/
def drivePieces? (segment : List Char) : Option (List Char × List Char) :=
  match Text.splitAt? ':' segment with
  | none => none
  | some (before, behind) =>
    let drive := withoutGaps before ++ [':']
    let rest := withoutGaps behind
    if isDrive drive ∧ (behind.head?.map isGap).getD false ∧ rest ≠ [] then some (drive, rest)
    else none

/-! ### Segments -/

/-- A segment as it is written in an address. -/
inductive Segment where
  | plain (text : List Char)
  /-- The drive that a file is on. -/
  | drive (letter : Char)
  deriving DecidableEq

namespace Segment

def text : Segment → List Char
  | plain cs => cs
  | drive letter => [letter, ':']

def ofText (cs : List Char) : Segment :=
  plain (encode markedInPath cs)

/-- The segment that begins the path of a file. -/
def first (cs : List Char) : Segment :=
  match cs with
  | letter :: _ => if isDrive cs then drive letter else ofText cs
  | [] => ofText []

def isDrive : Segment → Bool
  | drive _ => true
  | plain _ => false

end Segment

/-- Takes the last segment away. Segments are kept in reverse. -/
def dropSegment : List Segment → List Segment
  | [] => []
  | s :: rest => if beginsWithDrive s.text then s :: rest else rest

/-- The segments of a path behind those that are kept in reverse, with the dots resolved. In the
path of a file, a gap behind the drive at its beginning is as good as a slash. -/
def resolve (ofFile : Bool) : List Segment → List (List Char) → List Segment
  | done, [] => done.reverse
  | done, s :: rest =>
    let begins := ofFile && done.isEmpty
    match if begins then drivePieces? s else none with
    | some (drive, behind) => resolve ofFile [.ofText behind, .ofText drive] rest
    | none =>
      let solid := withoutGaps s
      let ending : List Segment := if rest.isEmpty then [.plain []] else []
      if isDoubleDot solid then resolve ofFile (ending ++ dropSegment done) rest
      else if isSingleDot solid then resolve ofFile (ending ++ done) rest
      else resolve ofFile ((if begins then .first solid else .ofText solid) :: done) rest

/-- The segments of the path written behind its first slash. In the well-known schemes a backslash
is a slash. -/
def segments (wellKnown ofFile : Bool) (cs : List Char) : List Segment :=
  let slashed := if wellKnown then cs.map fun c => if c = '\\' then '/' else c else cs
  resolve ofFile [] (Text.pieces '/' slashed)

def pathText (segments : List Segment) : List Char :=
  segments.flatMap fun s => '/' :: s.text

/-- The path written behind its first slash, in a scheme other than that of files. -/
def normalPath (wellKnown : Bool) (cs : List Char) : List Char :=
  pathText (segments wellKnown false cs)

end TangibleBlocks.Url
