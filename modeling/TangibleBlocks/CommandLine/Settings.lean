import TangibleBlocks.CommandLine.Grammar
import TangibleBlocks.Detection.Detector
import TangibleBlocks.Grid.Cell
import TangibleBlocks.Program.Compiler
import TangibleBlocks.Url.Parser

/-!
The settings of the tools and the options that change them.
-/

namespace TangibleBlocks.CommandLine

structure Settings where
  input : Option Url
  output : Url
  labels : List String
  scoreThreshold : Option Binary32
  preview : Bool
  overlapThreshold : Binary32
  lineTolerance : Binary32
  loopRepeats : Nat
  width : Int32
  height : Int32
  start : Cell
  heading : Heading
  blocked : List Cell
  items : List Cell
  goal : Option Cell
  realtime : Bool
  limit : Option Nat
  /-- Milliseconds between two frames. -/
  tick : Option Nat

namespace Settings

/-- What holds if nothing is said. -/
def usual (output : Url) : Settings where
  input := none
  output := output
  labels := []
  scoreThreshold := none
  preview := false
  overlapThreshold := Detector.usualOverlap
  lineTolerance := Compiler.usualTolerance
  loopRepeats := Compiler.usualRepeats
  width := 8
  height := 8
  start := ⟨0, 0⟩
  heading := .up
  blocked := []
  items := []
  goal := none
  realtime := false
  limit := none
  tick := none

end Settings

/-! ### Values -/

def url? (text : String) : Option Url :=
  (Url.parse text).toOption

def cell? (text : String) : Option Cell :=
  (Cell.ofText text).toOption

/-- An integer of two words' length that lies within bounds. -/
def integer? (low high : Int) (text : String) : Option Int :=
  (readInteger? Int64.minValue.toInt Int64.maxValue.toInt text.toList).filter fun i =>
    decide (low ≤ i) && decide (i ≤ high)

def coordinate? (text : String) : Option Int32 :=
  (integer? Cell.least Cell.greatest text).map Int32.ofInt

def count? (text : String) : Option Nat :=
  (integer? 0 (UInt32.size - 1) text).map Int.toNat

def natural? (text : String) : Option Nat :=
  readNatural? 64 text.toList

/-! ### Options -/

/-- An option whose value is read before it is taken. -/
def Item.of {β : Type} (name : String) (form : Form) (read : String → Option β)
    (set : β → Settings → Settings) : Item Settings :=
  ⟨name, form, fun text s => (read text).map fun b => set b s⟩

def Item.flag (name : String) (set : Settings → Settings) : Item Settings :=
  ⟨name, .flag, fun _ s => some (set s)⟩

def inputItem : Item Settings :=
  .of "input" .single url? fun u s => { s with input := some u }

def outputItem : Item Settings :=
  .of "output" .single url? fun u s => { s with output := u }

def previewItem : Item Settings :=
  .flag "preview" fun s => { s with preview := true }

def limitItem : Item Settings :=
  .of "frame-number" .single natural? fun n s => { s with limit := some n }

/-- Labels are given with commas between them. -/
def labelsItem : Item Settings :=
  .of "labels" .repeated some fun text s =>
    { s with labels := s.labels ++ (Text.pieces ',' text.toList).map String.ofList }

def scoreItem : Item Settings :=
  .of "score-threshold" .single Binary32.read? fun x s => { s with scoreThreshold := some x }

def overlapItem : Item Settings :=
  .of "iou-threshold" .single Binary32.read? fun x s => { s with overlapThreshold := x }

def toleranceItem : Item Settings :=
  .of "line-tolerance" .single Binary32.read? fun x s => { s with lineTolerance := x }

def repeatsItem : Item Settings :=
  .of "loop-repeat" .single count? fun n s => { s with loopRepeats := n }

def widthItem : Item Settings :=
  .of "width" .single coordinate? fun n s => { s with width := n }

def heightItem : Item Settings :=
  .of "height" .single coordinate? fun n s => { s with height := n }

def startItem : Item Settings :=
  .of "start" .single cell? fun c s => { s with start := c }

def headingItem : Item Settings :=
  .of "heading" .single Heading.ofName? fun h s => { s with heading := h }

def blockedItem : Item Settings :=
  .of "blocked" .repeated cell? fun c s => { s with blocked := s.blocked ++ [c] }

def collectibleItem : Item Settings :=
  .of "collectible" .repeated cell? fun c s => { s with items := s.items ++ [c] }

def goalItem : Item Settings :=
  .of "goal" .single cell? fun c s => { s with goal := some c }

def realtimeItem : Item Settings :=
  .flag "realtime" fun s => { s with realtime := true }

def tickItem : Item Settings :=
  .of "tick-ms" .single natural? fun n s => { s with tick := some n }

end TangibleBlocks.CommandLine
