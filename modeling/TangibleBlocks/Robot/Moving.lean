import TangibleBlocks.Grid.World
import TangibleBlocks.Robot.Basic

/-!
How a robot moves. It turns at once. It walks cell by cell, collecting on every
cell that it enters, and stays where the next cell cannot be entered. It jumps
one cell farther than it is told, whatever lies between, or not at all. A busy
robot refuses every motion.
-/

namespace TangibleBlocks

/-- The robot and the world after a motion. -/
structure Moved (σ : Type) where
  robot : Robot
  world : σ
  motion : Motion

namespace World

/-- Up to `n` steps from a cell. The first component counts the steps that were not taken. -/
def advance {σ : Type} (w : World σ) (h : Heading) : Nat → Cell → σ → Nat × Cell × σ
  | 0, c, s => (0, c, s)
  | n + 1, c, s =>
    match w.enter? s c h with
    | none => (n + 1, c, s)
    | some d => advance w h n d (w.collect s d)

end World

namespace Robot

variable {σ : Type}

def face (timing : Timing) (r : Robot) (h : Heading) : Robot × Motion :=
  if r.busy then (r, .rejected .turn r.cell)
  else ({ r with heading := h }, ⟨.turn, r.cell, r.cell, .completed, timing.turn⟩)

def walk (w : World σ) (timing : Timing) (r : Robot) (steps : Nat) (s : σ) : Moved σ :=
  if r.busy then ⟨r, s, .rejected .walk r.cell⟩
  else
    let (left, target, s') := w.advance r.heading steps r.cell s
    let entered := steps - left
    ⟨{ r with cell := target, busy := true }, s',
      ⟨.walk, r.cell, target, if left = 0 then .completed else .partly entered,
        timing.step.times entered⟩⟩

/-- Where a jump ends. Its length has to be a coordinate, too. -/
def landing? (r : Robot) (steps : Nat) : Option Cell :=
  if (steps : Int) + 1 ≤ Cell.greatest then r.cell.offset? r.heading (steps + 1) else none

def jump (w : World σ) (timing : Timing) (r : Robot) (steps : Nat) (s : σ) : Moved σ :=
  if r.busy then ⟨r, s, .rejected .jump r.cell⟩
  else
    match (r.landing? steps).filter (w.passable s) with
    | none => ⟨r, s, .voided r.cell⟩
    | some c =>
      ⟨{ r with cell := c, busy := true }, w.collect s c,
        ⟨.jump, r.cell, c, .completed, timing.step.times (steps + 1)⟩⟩

/-- A motion has been carried out. Only one that was refused leaves the robot as busy as it is. -/
def complete (r : Robot) (m : Motion) : Robot :=
  if m.isRejected then r else { r with busy := false }

end Robot

end TangibleBlocks
