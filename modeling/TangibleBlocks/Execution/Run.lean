import TangibleBlocks.Execution.Activity
import TangibleBlocks.Program.Basic
import TangibleBlocks.Robot.Moving

/-!
The execution of programs. A command turns the robot, lets it act and waits
until that is done. Cancelling takes effect before the next node of the program
and before the next iteration of a loop; a loop that is left in this way is
followed by nothing, since the switch stays thrown.
-/

namespace TangibleBlocks

/-- The pauses after picking up and after a command. -/
structure Delays where
  pickUp : Duration
  command : Duration
  deriving DecidableEq

def Delays.usual : Delays :=
  ⟨.ofMilliseconds 300, .ofMilliseconds 150⟩

/-- How long everything takes. -/
structure Pace where
  timing : Timing
  delays : Delays
  deriving DecidableEq

def Pace.usual : Pace :=
  ⟨.usual, .usual⟩

namespace Host

variable {σ : Type}

/-- Waits for a motion to end, unless it was refused, and completes it. -/
def settle (h : Host σ) (m : Motion) : Activity σ :=
  fun r s => ⟨r.complete m, if m.isRejected then s else h.wait s m.duration, .ofMotion m⟩

def turn (h : Host σ) (p : Pace) : Option Heading → Activity σ
  | none => .skip
  | some d => fun r s =>
    let (r', m) := r.face p.timing d
    h.settle m r' s

def walk (h : Host σ) (p : Pace) (steps : Nat) : Activity σ :=
  fun r s =>
    let moved := r.walk h.toWorld p.timing steps s
    h.settle moved.motion moved.robot moved.world

def jump (h : Host σ) (p : Pace) (steps : Nat) : Activity σ :=
  fun r s =>
    let moved := r.jump h.toWorld p.timing steps s
    h.settle moved.motion moved.robot moved.world

def pickUp (h : Host σ) (p : Pace) : Activity σ :=
  fun r s => ⟨r, h.wait (h.collect s r.cell) p.delays.pickUp, .ofPickUp⟩

def act (h : Host σ) (p : Pace) (c : Command) : Activity σ :=
  match c.action with
  | .walk => h.walk p c.count
  | .jump => h.jump p c.count
  | .pickUp => h.pickUp p
  | .stay => .skip

/-- The pause between two commands. -/
def pause (h : Host σ) (p : Pace) : Activity σ :=
  fun r s => ⟨r, h.wait s p.delays.command, .ofCommand⟩

def execute (h : Host σ) (p : Pace) (c : Command) : Activity σ :=
  (h.turn p c.direction).andThen ((h.act p c).andThen (h.pause p))

def executeAll (h : Host σ) (p : Pace) (cs : List Command) : Activity σ :=
  .sequence (cs.map (h.execute p))

/-- The body of a loop, `n` times. -/
def rounds (h : Host σ) (p : Pace) (body : List Command) : Nat → Activity σ
  | 0, r, s => Activity.skip r s
  | n + 1, r, s =>
    Activity.unlessCancelled h ((h.executeAll p body).andThen (rounds h p body n)) r s

def node (h : Host σ) (p : Pace) : Node → Activity σ
  | .command c => h.execute p c
  | .loop n body => h.rounds p body n

def nodes (h : Host σ) (p : Pace) : List Node → Activity σ
  | [], r, s => Activity.skip r s
  | n :: rest, r, s => Activity.unlessCancelled h ((h.node p n).andThen (nodes h p rest)) r s

/-- Executes a program. The report ends with the state of the robot. -/
def run (h : Host σ) (p : Pace) (program : Program) : Activity σ :=
  (h.nodes p program.nodes).andThen (.note .ofEnd)

end Host

end TangibleBlocks
