import TangibleBlocks.Grid.Heading

/-!
The programming blocks. Each kind of block has a label printed on it; the labels
of the digit blocks are the digits from 2 to 9.
-/

namespace TangibleBlocks

inductive Block where
  | walk
  | jump
  | pickUp
  | arrow (heading : Heading)
  | digit (value : UInt8)
  | start
  | loop
  | circle
  | triangle
  | sleep
  deriving DecidableEq, Inhabited

/-- What a block is for in a line of a program. -/
inductive Role where
  | action
  | direction
  | multiplier
  | control
  | decorative
  deriving DecidableEq

namespace Block

/-- The digit printed for a value: the nearest one that there is a block for. -/
def digitLabel (value : UInt8) : String :=
  toString (min 9 (max 2 value.toNat))

def label : Block → String
  | walk => "andar"
  | jump => "pular"
  | pickUp => "pegar"
  | arrow .up => "seta_up"
  | arrow .down => "seta_down"
  | arrow .left => "seta_left"
  | arrow .right => "seta_right"
  | digit n => digitLabel n
  | start => "inicio"
  | loop => "looping"
  | circle => "circulo"
  | triangle => "triangulo"
  | sleep => "zzz"

def role : Block → Role
  | walk | jump | pickUp => .action
  | arrow _ => .direction
  | digit _ => .multiplier
  | start | loop => .control
  | circle | triangle | sleep => .decorative

/-- The blocks in the order of the full set of classes. -/
def standard : List Block :=
  [walk, circle, start, loop, pickUp, jump, triangle, sleep, digit 2, digit 3, digit 4, digit 5,
    digit 6, digit 7, digit 8, digit 9, arrow .up, arrow .down, arrow .left, arrow .right]

/-- The block with exactly this label. -/
def ofLabel? (text : String) : Option Block :=
  standard.find? fun b => b.label == text

theorem label_of_ofLabel? {text : String} {b : Block} (h : ofLabel? text = some b) :
    b.label = text := by
  simpa using List.find?_some h

theorem ofLabel?_label {b : Block} (h : b ∈ standard) : ofLabel? b.label = some b := by
  revert b
  decide

end Block

end TangibleBlocks
