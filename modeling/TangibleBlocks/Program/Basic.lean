import TangibleBlocks.Grid.Heading

/-!
Programs for the robot. A program is a list of commands and loops; a loop repeats
a list of commands and contains no further loop.
-/

namespace TangibleBlocks

inductive Action where
  | walk
  | jump
  | pickUp
  | stay
  deriving DecidableEq, Inhabited

/-- Turn, if there is a direction, and then act. The count is the number of steps. -/
structure Command where
  action : Action
  direction : Option Heading
  count : Nat
  deriving DecidableEq, Inhabited

namespace Command

def once (a : Action) : Command :=
  ⟨a, none, 1⟩

def facing (c : Command) (h : Heading) : Command :=
  { c with direction := some h }

/-- The command with another count, which is at least one. -/
def times (c : Command) (n : Nat) : Command :=
  { c with count := max n 1 }

end Command

inductive Node where
  | command (c : Command)
  | loop (repeats : Nat) (body : List Command)
  deriving DecidableEq, Inhabited

namespace Node

/-- The commands of a node, one after the other. -/
def unroll : Node → List Command
  | command c => [c]
  | loop n body => (List.replicate n body).flatten

def commandCount : Node → Nat
  | command _ => 1
  | loop n body => body.length * n

theorem length_unroll (n : Node) : n.unroll.length = n.commandCount := by
  cases n with
  | command c => rfl
  | loop k body => simp [unroll, commandCount, Nat.mul_comm]

end Node

structure Program where
  nodes : List Node
  deriving DecidableEq, Inhabited

namespace Program

def size (p : Program) : Nat :=
  p.nodes.length

def isEmpty (p : Program) : Bool :=
  p.nodes.isEmpty

/-- How many commands are executed if nothing interrupts the program. -/
def commandCount (p : Program) : Nat :=
  p.nodes.foldr (fun node n => node.commandCount + n) 0

end Program

end TangibleBlocks
