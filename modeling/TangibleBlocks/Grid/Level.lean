import TangibleBlocks.Grid.World
import TangibleBlocks.Journal

/-!
A level: a rectangle of cells with obstacles, things to collect and perhaps a
goal. Things are collected once; the order in which that happens is kept.
-/

namespace TangibleBlocks

structure Level where
  width : Int32
  height : Int32
  blocked : List Cell
  items : List Cell
  collected : List Cell
  goal : Option Cell
  deriving DecidableEq, Inhabited

namespace Level

/-- A level in which nothing has been collected. Each cell holds one thing at most. -/
def build (width height : Int32) (blocked items : List Cell) (goal : Option Cell) : Level :=
  ⟨width, height, blocked, items.eraseDups, [], goal⟩

def inBounds (l : Level) (c : Cell) : Bool :=
  decide (0 ≤ c.x ∧ 0 ≤ c.y ∧ c.x < l.width ∧ c.y < l.height)

def passable (l : Level) (c : Cell) : Bool :=
  l.inBounds c && !l.blocked.contains c

/-- Takes what lies on a cell. -/
def collect (l : Level) (c : Cell) : Level :=
  if c ∈ l.items then { l with items := l.items.erase c, collected := l.collected ++ [c] } else l

def world : World Level :=
  ⟨passable, collect⟩

/-- What is reported when the robot looks for something on a cell. -/
def collectNotes (l : Level) (c : Cell) : List Entry :=
  if c ∈ l.items then
    [Origin.level.info s!"在 {c.text} 收集到物品，剩余 {(l.items.erase c).length}"]
  else [Origin.level.debug s!"{c.text} 没有可收集物"]

/-- The state of a level at the end. -/
structure Outcome where
  collected : List Cell
  remaining : Nat
  goalReached : Bool
  deriving DecidableEq

/-- The outcome with the robot on the given cell. -/
def outcome (l : Level) (place : Cell) : Outcome :=
  ⟨l.collected, l.items.length, l.goal == some place⟩

@[simp] theorem passable_collect (l : Level) (c d : Cell) :
    (l.collect c).passable d = l.passable d := by
  unfold collect
  split <;> rfl

end Level

end TangibleBlocks
