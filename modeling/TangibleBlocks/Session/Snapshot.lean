import TangibleBlocks.Detection.Basic
import TangibleBlocks.Journal
import TangibleBlocks.Time

/-!
The slot that holds the latest detections. A capture freezes it: from then on
nothing is published, until the slot is reset.
-/

namespace TangibleBlocks

structure Slot where
  items : List Detection
  frame : Nat
  updated : Option Timestamp
  stopped : Bool
  deriving DecidableEq, Inhabited

/-- What a capture takes out of the slot. -/
structure Snapshot where
  items : List Detection
  frame : Nat
  updated : Option Timestamp
  deriving DecidableEq, Inhabited

namespace Slot

def empty : Slot :=
  ⟨[], 0, none, false⟩

/-- Puts the detections of a frame into the slot. The second component tells whether the slot has
taken them. -/
def publish (s : Slot) (frame : Nat) (items : List Detection) (now : Timestamp) : Slot × Bool :=
  if s.stopped then (s, false) else (⟨items, frame, some now, false⟩, true)

def stop (s : Slot) : Slot :=
  { s with stopped := true }

def snapshot (s : Slot) : Snapshot :=
  ⟨s.items, s.frame, s.updated⟩

/-- Freezes the slot and takes a snapshot of it. -/
def capture (s : Slot) : Slot × Snapshot :=
  (s.stop, s.snapshot)

/-- The slot of a camera that is opened again. -/
def reset (_ : Slot) : Slot :=
  empty

def publishNotes (s : Slot) (frame : Nat) : List Entry :=
  if s.stopped then [Origin.snapshot.debug s!"快照已停止，丢弃第 {frame} 帧结果"] else []

end Slot

end TangibleBlocks
