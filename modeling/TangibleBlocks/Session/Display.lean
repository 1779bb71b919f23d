import TangibleBlocks.Detection.Basic
import TangibleBlocks.Detection.Tensor
import TangibleBlocks.Execution.Report
import TangibleBlocks.Program.Basic

/-!
What a session shows its results to. While it is shown a frame, a display may
freeze the snapshot or cancel the session, and it may fail.
-/

namespace TangibleBlocks

/-- A display after it was shown something. -/
structure Reply (δ ε : Type) where
  display : δ
  stops : Bool
  cancels : Bool
  failure : Option ε

namespace Reply

variable {δ ε : Type}

def ok (d : δ) : Reply δ ε :=
  ⟨d, false, false, none⟩

def failed (d : δ) (e : ε) : Reply δ ε :=
  ⟨d, false, false, some e⟩

end Reply

/-- Displays with states `δ` and failures `ε`. -/
structure Display (δ ε : Type) where
  showFrame : δ → Tensor → List Detection → Reply δ ε
  showProgram : δ → Program → Report → Reply δ ε

end TangibleBlocks
