/-!
The four headings on a grid whose rows are counted downwards.
-/

namespace TangibleBlocks

inductive Heading where
  | up
  | right
  | down
  | left
  deriving DecidableEq, Inhabited

namespace Heading

/-- What one step changes about the two coordinates. -/
def delta : Heading → Int × Int
  | up => (0, -1)
  | right => (1, 0)
  | down => (0, 1)
  | left => (-1, 0)

def name : Heading → String
  | up => "Up"
  | right => "Right"
  | down => "Down"
  | left => "Left"

/-- A heading by its name or its point of the compass, in any case. -/
def ofName? (text : String) : Option Heading :=
  let word := String.ofList (text.toList.map Char.toLower)
  if word = "up" ∨ word = "north" then some up
  else if word = "right" ∨ word = "east" then some right
  else if word = "down" ∨ word = "south" then some down
  else if word = "left" ∨ word = "west" then some left
  else none

/-- A step changes one coordinate by one. -/
theorem delta_natAbs (h : Heading) : h.delta.1.natAbs + h.delta.2.natAbs = 1 := by
  cases h <;> rfl

end Heading

end TangibleBlocks
