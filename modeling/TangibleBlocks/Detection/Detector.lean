import TangibleBlocks.Detection.Candidates
import TangibleBlocks.Detection.Suppression

/-!
A detector turns tensors into detected blocks: candidates above one threshold,
thinned out by suppression with another.
-/

namespace TangibleBlocks

structure Detector where
  vocabulary : Vocabulary
  scoreThreshold : Binary32
  overlapThreshold : Binary32
  deriving DecidableEq, Inhabited

namespace Detector

/-- The score threshold for a capture, 0.4. -/
def captureThreshold : Binary32 := ⟨0x3ecccccd⟩

/-- The score threshold for a preview, 0.25. -/
def previewThreshold : Binary32 := ⟨0x3e800000⟩

/-- The usual overlap threshold, 0.45. -/
def usualOverlap : Binary32 := ⟨0x3ee66666⟩

def ofVocabulary (v : Vocabulary) : Detector :=
  ⟨v, captureThreshold, usualOverlap⟩

def standard : Detector :=
  ofVocabulary .standard

def candidates (d : Detector) (t : Tensor) : List Detection :=
  t.candidates d.vocabulary d.scoreThreshold

/-- The blocks seen in a tensor, unless decoding it breaks off. -/
def infer (d : Detector) (t : Tensor) : List Detection :=
  Detection.suppress (d.candidates t) d.overlapThreshold

def inferNotes (d : Detector) (t : Tensor) : List Entry :=
  t.candidatesNotes d.vocabulary d.scoreThreshold ++
    [Origin.detector.debug s!"解码得到 {(d.candidates t).length} 个候选框",
      Origin.detector.debug s!"NMS 后剩余 {(d.infer t).length} 个积木"]

end Detector

end TangibleBlocks
