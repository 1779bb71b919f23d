import TangibleBlocks.Execution.Run
import TangibleBlocks.Program.Compiler
import TangibleBlocks.Session.Display
import TangibleBlocks.Session.Snapshot

/-!
A capture: the snapshot is frozen, compiled and executed. The program that runs
is the one that was seen last before the freezing.
-/

namespace TangibleBlocks

/-- Everything that it takes to execute a captured program. -/
structure Runner (σ : Type) where
  compiler : Compiler
  host : Host σ
  pace : Pace

/-- A captured program and what its execution has led to. -/
structure Captured (σ : Type) where
  slot : Slot
  program : Program
  progress : Progress σ

namespace Runner

variable {σ : Type}

def captureAndRun (k : Runner σ) (slot : Slot) (r : Robot) (s : σ) : Captured σ :=
  let (frozen, snapshot) := slot.capture
  let program := k.compiler.compile snapshot.items
  ⟨frozen, program, k.host.run k.pace program r s⟩

end Runner

end TangibleBlocks
