import TangibleBlocks.Detection.Detector
import TangibleBlocks.Session.Display
import TangibleBlocks.Session.Snapshot

/-!
Watching the blocks on the table. Frame after frame is decoded, shown and then
published. Watching ends when the session has been cancelled or the snapshot
frozen, when the display fails, when enough frames have been seen, or with the
last frame. Whether there were enough is asked after a frame.
-/

namespace TangibleBlocks

/-- How a session watches. -/
structure Watcher where
  detector : Detector
  limit : Option Nat
  deriving DecidableEq

/-- The state of a session while it watches. -/
structure Watching (δ : Type) where
  display : δ
  slot : Slot
  cancelled : Bool
  frame : Nat

namespace Watching

def start {δ : Type} (d : δ) : Watching δ :=
  ⟨d, .empty, false, 0⟩

end Watching

/-- What a frame leads to. -/
inductive Verdict (ε : Type) where
  | goOn
  | cancelled
  | frozen
  | failed (failure : ε)
  | refused
  | enough

namespace Verdict

variable {ε : Type}

def failure? : Verdict ε → Option ε
  | failed e => some e
  | _ => none

end Verdict

namespace Watcher

variable {δ ε : Type}

/-- Whether no frame after the given one is wanted. -/
def isLast (w : Watcher) (frame : Nat) : Bool :=
  match w.limit with
  | none => false
  | some n => decide (n ≤ frame)

/-- The display is shown what has been seen. -/
def present (w : Watcher) (d : Display δ ε) (t : Tensor) (s : Watching δ) :
    Watching δ × Option ε :=
  let reply := d.showFrame s.display t (w.detector.infer t)
  (⟨reply.display, if reply.stops then s.slot.stop else s.slot, s.cancelled || reply.cancels,
    s.frame + 1⟩, reply.failure)

/-- One frame. -/
def step (w : Watcher) (d : Display δ ε) (now : Timestamp) (t : Tensor) (s : Watching δ) :
    Watching δ × Verdict ε :=
  if s.cancelled then (s, .cancelled)
  else if s.slot.stopped then (s, .frozen)
  else
    let (shown, failure) := w.present d t s
    match failure with
    | some e => (shown, .failed e)
    | none =>
      let (slot, taken) := shown.slot.publish shown.frame (w.detector.infer t) now
      ({ shown with slot },
        if !taken then .refused else if w.isLast shown.frame then .enough else .goOn)

/-- Watches a list of frames. -/
def watch (w : Watcher) (d : Display δ ε) (now : Timestamp) :
    List Tensor → Watching δ → Watching δ × Option ε
  | [], s => (s, none)
  | t :: rest, s =>
    match w.step d now t s with
    | (s', .goOn) => watch w d now rest s'
    | (s', v) => (s', v.failure?)

end Watcher

end TangibleBlocks
