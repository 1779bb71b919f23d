import TangibleBlocks.Text.Composition
import TangibleBlocks.Text.Direction
import TangibleBlocks.Text.Joining
import TangibleBlocks.Url.Name.Punycode
import TangibleBlocks.Url.Name.Spelling

/-!
Labels, the parts of a name between its dots. A label in the characters of the
world is also written with basic characters, behind a mark. Not every label is
allowed: it must not begin with a combining mark, joiners may only stand where
they join something, and labels that run to the left must not mix directions.
-/

namespace TangibleBlocks.Url.Name

open Text

/-- What precedes a label that is written with basic characters. -/
def encodedMark : List Char := ['x', 'n', '-', '-']

/-- The most characters that an encoded label may have behind its mark. -/
def longestEncoded : Nat := 2000

/-- The most characters that a label to be encoded may have. -/
def longestLabel : Nat := 1000

/-- The label that stands behind the mark. It must be spelled as it would be outside it. -/
def decode? (cs : List Char) : Option (List Char) :=
  if cs = [] ∨ cs.getLast? = some '-' ∨ longestEncoded < cs.length then none
  else (Punycode.decode? cs).filter fun d => d.all isSpelled && compose d == d

/-- A label in the characters of the world. -/
def plainLabel? (cs : List Char) : Option (List Char) :=
  if encodedMark.isPrefixOf cs then decode? (cs.drop encodedMark.length) else some cs

/-- A label in basic characters. -/
def basicLabel (cs : List Char) : List Char :=
  if cs.all Punycode.isBasic then cs else encodedMark ++ Punycode.encode cs

/-! ### Joiners -/

def joiner : Char := Char.ofNat 0x200D

/-- Keeps two letters apart that would be joined. -/
def separator : Char := Char.ofNat 0x200C

/-- Whether every joiner stands behind a virama, and every separator there or between two letters
that join. The characters before a place are given in reverse. -/
def joinersFit : List Char → List Char → Bool
  | _, [] => true
  | before, c :: rest =>
    let fits :=
      if c = joiner ∨ c = separator then
        (before.head?.map isVirama).getD false || (c == separator && Joining.meet before rest)
      else true
    fits && joinersFit (c :: before) rest

/-! ### Directions -/

/-- Whether the directions in a label go together, if the name it is part of has text that runs to
the left. Numbers and neutral characters go with both directions, but not in every place. -/
def directionsFit (ds : List Direction) : Bool :=
  let last? := (ds.reverse.dropWhile (· == .mark)).head?
  match ds with
  | [] => true
  | .toRight :: _ =>
    ds.all [.toRight, .number, .neutral, .mark].contains &&
      (last?.map [.toRight, .number].contains).getD false
  | .toLeft :: _ =>
    !ds.contains .toRight && (last?.map [.toLeft, .number, .arabicNumber].contains).getD false &&
      !(ds.contains .number && ds.contains .arabicNumber)
  | _ => false

/-! ### All together -/

/-- Whether a label is allowed by itself. -/
def isAllowed (cs : List Char) : Bool :=
  !(cs.head?.map isMark).getD false && joinersFit [] cs &&
    (cs.all Punycode.isBasic || decide (cs.length ≤ longestLabel))

end TangibleBlocks.Url.Name
