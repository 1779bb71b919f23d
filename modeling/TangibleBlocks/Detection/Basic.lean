import TangibleBlocks.Block.Basic
import TangibleBlocks.Number.Binary32

/-!
A detected block: its box, given by centre and size, the score it was found
with, and the class it was taken for. Two boxes are compared by the share that
their intersection has in their union.
-/

namespace TangibleBlocks

structure Detection where
  centerX : Binary32
  centerY : Binary32
  width : Binary32
  height : Binary32
  score : Binary32
  classId : Nat
  block : Block
  deriving DecidableEq, Inhabited

namespace Detection

def left (d : Detection) : Binary32 :=
  d.centerX - d.width / .two

def top (d : Detection) : Binary32 :=
  d.centerY - d.height / .two

def right (d : Detection) : Binary32 :=
  d.centerX + d.width / .two

def bottom (d : Detection) : Binary32 :=
  d.centerY + d.height / .two

def area (d : Detection) : Binary32 :=
  d.width * d.height

/-- The area that two boxes have in common. -/
def intersection (a b : Detection) : Binary32 :=
  let x := (a.right.smaller b.right) - (a.left.larger b.left)
  let y := (a.bottom.smaller b.bottom) - (a.top.larger b.top)
  x.larger .zero * y.larger .zero

/-- The share of the intersection in the union, zero if the union has no positive area. -/
def overlap (a b : Detection) : Binary32 :=
  let common := a.intersection b
  let union := a.area + b.area - common
  if .zero < union then common / union else .zero

end Detection

end TangibleBlocks
