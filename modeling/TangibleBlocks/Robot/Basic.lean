import TangibleBlocks.Grid.Cell
import TangibleBlocks.Time

/-!
The robot and its motions. A robot stands on a cell, has a heading, and is busy
from the beginning of a walk or a jump until that motion has been completed.
-/

namespace TangibleBlocks

structure Robot where
  cell : Cell
  heading : Heading
  busy : Bool
  deriving DecidableEq, Inhabited

/-- How long a step and a turn take. -/
structure Timing where
  step : Duration
  turn : Duration
  deriving DecidableEq

/-- Half a second for a step and a quarter for a turn. -/
def Timing.usual : Timing :=
  ⟨.ofMilliseconds 500, .ofMilliseconds 250⟩

instance : Inhabited Timing := ⟨Timing.usual⟩

namespace Motion

inductive Kind where
  | turn
  | walk
  | jump
  deriving DecidableEq

namespace Kind

def name : Kind → String
  | turn => "Turn"
  | walk => "Walk"
  | jump => "Jump"

end Kind

inductive Outcome where
  | completed
  /-- Stopped by an obstacle behind the given number of cells. -/
  | partly (entered : Nat)
  /-- Given up, since there is nowhere to land. -/
  | voided
  /-- Refused, since the robot was busy. -/
  | rejected
  deriving DecidableEq

end Motion

structure Motion where
  kind : Motion.Kind
  origin : Cell
  target : Cell
  outcome : Motion.Outcome
  duration : Duration
  deriving DecidableEq

namespace Motion

def rejected (k : Kind) (c : Cell) : Motion :=
  ⟨k, c, c, .rejected, .zero⟩

def voided (c : Cell) : Motion :=
  ⟨.jump, c, c, .voided, .zero⟩

def isRejected (m : Motion) : Bool :=
  decide (m.outcome = .rejected)

/-- The motion without its duration. -/
def route (m : Motion) : Kind × Cell × Cell × Outcome :=
  (m.kind, m.origin, m.target, m.outcome)

end Motion

namespace Robot

def idle (c : Cell) (h : Heading) : Robot :=
  ⟨c, h, false⟩

end Robot

end TangibleBlocks
