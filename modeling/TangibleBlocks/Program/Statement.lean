import TangibleBlocks.Block.Basic
import TangibleBlocks.Program.Basic

/-!
What one line of blocks stands for. It is read from left to right, with one place
each for what to do, for the direction and for the multiplier. So of the blocks that
say what to do, of the arrows and of the digits, the last one in the line counts;
everything else is decoration.
-/

namespace TangibleBlocks

/-- The blocks that say what a line does. -/
inductive Opcode where
  | act (action : Action)
  | start
  | loop
  deriving DecidableEq

namespace Block

def opcode? : Block → Option Opcode
  | walk => some (.act .walk)
  | jump => some (.act .jump)
  | pickUp => some (.act .pickUp)
  | start => some .start
  | loop => some .loop
  | _ => none

def heading? : Block → Option Heading
  | arrow h => some h
  | _ => none

def multiplier? : Block → Option Nat
  | digit n => some n.toNat
  | _ => none

end Block

inductive Statement where
  | start
  | loop (repeats : Option Nat) (direction : Option Heading)
  | command (c : Command)
  deriving DecidableEq, Inhabited

namespace Statement

/-- The statement with the given operation, direction and multiplier. -/
def ofParts (opcode : Option Opcode) (direction : Option Heading) (multiplier : Option Nat) :
    Statement :=
  match opcode with
  | some .start => .start
  | some .loop => .loop multiplier direction
  | some (.act a) => .command ⟨a, direction, multiplier.getD 1⟩
  | none => .command ⟨.stay, direction, multiplier.getD 1⟩

/-- What has been told about a line so far. -/
structure Told where
  opcode : Option Opcode
  direction : Option Heading
  multiplier : Option Nat
  deriving DecidableEq

namespace Told

def nothing : Told :=
  ⟨none, none, none⟩

/-- Takes one more block into account. It replaces what has been told about the same thing. -/
def note (told : Told) (b : Block) : Told where
  opcode := b.opcode?.or told.opcode
  direction := b.heading?.or told.direction
  multiplier := b.multiplier?.or told.multiplier

theorem getLast?_filterMap_cons_or {α : Type} (f : Block → Option α) (b : Block)
    (line : List Block) (before : Option α) :
    ((b :: line).filterMap f).getLast?.or before =
      (line.filterMap f).getLast?.or ((f b).or before) := by
  cases h : f b with
  | none => rw [List.filterMap_cons_none h, Option.none_or]
  | some x =>
      rw [List.filterMap_cons_some h, List.getLast?_cons, Option.some_or]
      cases (line.filterMap f).getLast? <;> rfl

theorem foldl_note (line : List Block) (told : Told) :
    line.foldl note told =
      ⟨(line.filterMap Block.opcode?).getLast?.or told.opcode,
        (line.filterMap Block.heading?).getLast?.or told.direction,
        (line.filterMap Block.multiplier?).getLast?.or told.multiplier⟩ := by
  induction line generalizing told with
  | nil => rfl
  | cons b line ih =>
      rw [List.foldl_cons, ih]
      simp only [getLast?_filterMap_cons_or, note]

end Told

/-- What a line of blocks stands for. -/
def ofLine (line : List Block) : Statement :=
  let told := line.foldl Told.note .nothing
  ofParts told.opcode told.direction told.multiplier

/-- Of the blocks that tell the same thing, the last one counts. -/
theorem ofLine_eq_ofParts (line : List Block) :
    ofLine line =
      ofParts (line.filterMap Block.opcode?).getLast? (line.filterMap Block.heading?).getLast?
        (line.filterMap Block.multiplier?).getLast? := by
  simp only [ofLine, Told.foldl_note, Told.nothing, Option.or_none]

end Statement

end TangibleBlocks
