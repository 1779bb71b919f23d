import TangibleBlocks.Session.OneShot

/-!
Sessions that break off. Where decoding a frame goes beyond its data, a session ends
at once: the frame is neither shown nor published, and nothing more is reported.
-/

namespace TangibleBlocks

/-- What a session has come to when it breaks off, what it has reported by then, and what the reason
is. -/
structure Breakdown (σ : Type) where
  state : σ
  notes : List Entry
  cause : Tensor.Outside

namespace Breakdown

/-- The same, with notes in front. -/
def after {σ : Type} (notes : List Entry) (b : Breakdown σ) : Breakdown σ :=
  { b with notes := notes ++ b.notes }

end Breakdown

namespace Detector

/-- The place beyond the data that decoding a tensor comes to, if it does. -/
def outside? (d : Detector) (t : Tensor) : Option Tensor.Outside :=
  match t.decode d.vocabulary d.scoreThreshold with
  | .ok _ => none
  | .error o => some o

end Detector

variable {δ ε : Type}

namespace OneShot

def breakdown? (detector : Detector) (feed : Feed) (s : δ) : Option (Breakdown δ) :=
  match feed.arrivals with
  | [] => none
  | (notes, t) :: _ =>
    (detector.outside? t).map fun o => ⟨s, startNote :: notes ++ [decodingNote], o⟩

end OneShot

namespace Watcher

def framesBreakdown? (w : Watcher) (d : Display δ ε)
    (frameRemark : δ → Tensor → List Detection → List Entry) (elapsed : Elapsed)
    (now : Timestamp) :
    List (List Entry × Tensor) → Watching δ → Option (Breakdown (Watching δ))
  | [], _ => none
  | (notes, t) :: rest, s =>
    if s.cancelled || s.slot.stopped then none
    else
      match w.detector.outside? t with
      | some o => some ⟨s, notes, o⟩
      | none =>
        match w.step d now t s with
        | (s', .goOn) =>
          (framesBreakdown? w d frameRemark elapsed now rest s').map
            (.after (notes ++ w.stepNotes d frameRemark elapsed now t s))
        | _ => none

/-- What watching a feed breaks off with, if it comes to a frame that cannot be decoded. -/
def breakdown? (w : Watcher) (d : Display δ ε)
    (frameRemark : δ → Tensor → List Detection → List Entry) (elapsed : Elapsed) (now : Timestamp)
    (feed : Feed) (s : Watching δ) : Option (Breakdown (Watching δ)) :=
  (w.framesBreakdown? d frameRemark elapsed now feed.arrivals s).map (.after [startNote])

end Watcher

end TangibleBlocks
