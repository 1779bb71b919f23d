import TangibleBlocks.Program.Loops
import TangibleBlocks.Program.Rows

/-!
The compiler makes a program of detected blocks: it finds the lines, reads each
of them as a statement and folds the statements into loops.
-/

namespace TangibleBlocks

structure Compiler where
  lineTolerance : Binary32
  loopRepeats : Nat
  deriving DecidableEq, Inhabited

namespace Compiler

/-- The usual distance between lines, 40. -/
def usualTolerance : Binary32 := ⟨0x42200000⟩

def usualRepeats : Nat := 2

def standard : Compiler :=
  ⟨usualTolerance, usualRepeats⟩

def withTolerance (k : Compiler) (tolerance : Binary32) : Compiler :=
  { k with lineTolerance := tolerance }

/-- The compiler that repeats loops without a number `n` times, at least once. -/
def withRepeats (k : Compiler) (n : Nat) : Compiler :=
  { k with loopRepeats := max n 1 }

/-- The program written as lines of blocks. -/
def compileLines (k : Compiler) (lines : List (List Block)) : Program :=
  .ofStatements k.loopRepeats (lines.map .ofLine)

def lines (k : Compiler) (items : List Detection) : List (List Block) :=
  (Detection.rows items k.lineTolerance).map fun row => row.map Detection.block

/-- The program that the detected blocks make. -/
def compile (k : Compiler) (items : List Detection) : Program :=
  k.compileLines (k.lines items)

def compileLinesNotes (k : Compiler) (lines : List (List Block)) : List Entry :=
  let p := k.compileLines lines
  Statement.notes k.loopRepeats 1 none (lines.map .ofLine) ++
    [Origin.compiler.debug s!"编译完成: {p.size} 个节点, 展开后 {p.commandCount} 条命令"]

/-- The labels of a line. -/
def lineText (line : List Block) : String :=
  "[" ++ ", ".intercalate (line.map fun b => "\"" ++ b.label ++ "\"") ++ "]"

def compileNotes (k : Compiler) (items : List Detection) : List Entry :=
  let lines := k.lines items
  Origin.compiler.debug s!"{items.length} 个积木分为 {lines.length} 行" ::
    (lines.zipIdx 1).map
      (fun line => Origin.compiler.debug s!"第 {line.2} 行: {lineText line.1}") ++
    k.compileLinesNotes lines

end Compiler

end TangibleBlocks
