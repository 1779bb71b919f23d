import TangibleBlocks.Detection.Basic

/-!
Lines of blocks on the table. Blocks are taken from top to bottom; those whose
vertical distance from the first block of a line is below a tolerance belong to
that line, which is then read from left to right.
-/

namespace TangibleBlocks.Detection

def higher (a b : Detection) : Bool :=
  decide (a.centerY.rank ≤ b.centerY.rank)

def fartherLeft (a b : Detection) : Bool :=
  decide (a.centerX.rank ≤ b.centerX.rank)

/-- Whether a block belongs to the line that begins with `head`. -/
def inLineOf (tolerance : Binary32) (head d : Detection) : Bool :=
  decide ((d.centerY - head.centerY).abs < tolerance)

/-- Cuts a list into lines, each with its first block in front. -/
def cut (tolerance : Binary32) : List Detection → List (List Detection)
  | [] => []
  | head :: rest =>
    (head :: rest.takeWhile (inLineOf tolerance head)) ::
      cut tolerance (rest.dropWhile (inLineOf tolerance head))
  termination_by items => items.length
  decreasing_by
    have := (List.dropWhile_sublist (inLineOf tolerance head) (l := rest)).length_le
    simp only [List.length_cons]
    omega

/-- The lines, from top to bottom and from left to right. -/
def rows (items : List Detection) (tolerance : Binary32) : List (List Detection) :=
  (cut tolerance (items.mergeSort higher)).map fun row => row.mergeSort fartherLeft

end TangibleBlocks.Detection
