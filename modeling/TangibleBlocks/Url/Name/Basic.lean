import TangibleBlocks.Url.Name.Label

/-!
Names of hosts. A name may use the characters of the world; the same name in
basic characters is what an address keeps. Most characters have one spelling
that stands for several, so that capitals and small letters make no difference.
-/

namespace TangibleBlocks.Url.Name

open Text

/-- The name in its proper spelling, if all of its characters can stand in names. -/
def spelled? (cs : List Char) : Option (List Char) :=
  (cs.mapM spell?).map fun spellings => compose spellings.flatten

/-- The labels of a name in the characters of the world. -/
def labels? (cs : List Char) : Option (List (List Char)) :=
  ((spelled? cs).bind fun name => (pieces '.' name).mapM plainLabel?).filter fun labels =>
    let turns := labels.any fun l => l.any fun c => (Direction.ofChar c).turns
    labels.all fun l => isAllowed l && (!turns || directionsFit (l.map Direction.ofChar))

/-- The name in basic characters. -/
def basic? (cs : List Char) : Option (List Char) :=
  (labels? cs).map fun labels => ['.'].intercalate (labels.map basicLabel)

end TangibleBlocks.Url.Name
