import TangibleBlocks.Detection.Basic

/-!
Suppression of boxes that lie on top of better ones. Boxes are taken in
descending order of their scores, equal scores in the order given, and a box is
kept if its overlap with no box kept before it exceeds a threshold. What the
boxes were taken for makes no difference.
-/

namespace TangibleBlocks.Detection

/-- The order in which boxes are considered. -/
def atLeast (a b : Detection) : Bool :=
  decide (b.score.rank ≤ a.score.rank)

def sorted (items : List Detection) : List Detection :=
  items.mergeSort atLeast

/-- Whether a box is free of the boxes kept before it. -/
def isFree (threshold : Binary32) (kept : List Detection) (d : Detection) : Bool :=
  kept.all fun k => decide (k.overlap d ≤ threshold)

/-- The boxes to keep, in addition to those kept already. -/
def keep (threshold : Binary32) : List Detection → List Detection → List Detection
  | _, [] => []
  | kept, d :: rest =>
    if isFree threshold kept d then d :: keep threshold (d :: kept) rest
    else keep threshold kept rest

def suppress (items : List Detection) (threshold : Binary32) : List Detection :=
  keep threshold [] (sorted items)

end TangibleBlocks.Detection
