import TangibleBlocks.Block.Vocabulary
import TangibleBlocks.Detection.Basic
import TangibleBlocks.Detection.Tensor
import TangibleBlocks.Journal

/-!
Reading candidates from a tensor. Every anchor stands for the class with its
highest score, the first of them if there are several, and becomes a candidate
if that score exceeds a threshold. A tensor that does not fit the vocabulary
yields nothing. Decoding a tensor reads its fields one after the other, and
breaks off where there is none; the candidates are what it comes to otherwise.
-/

namespace TangibleBlocks

namespace Tensor

/-- The higher of the best score so far and the score of one more class. -/
def better (t : Tensor) (classes anchor : Nat) (best : Binary32 × Nat) (c : Nat) :
    Binary32 × Nat :=
  let score := t.field classes anchor (boxFields + c)
  if best.1 < score then (score, c) else best

/-- The highest score of an anchor and its class. -/
def best (t : Tensor) (classes anchor : Nat) : Binary32 × Nat :=
  (List.range classes).foldl (t.better classes anchor) (.lowest, 0)

/-- The block that an anchor stands for, if its score exceeds the threshold. -/
def candidate? (t : Tensor) (v : Vocabulary) (threshold : Binary32) (anchor : Nat) :
    Option Detection :=
  let (score, c) := t.best v.size anchor
  if score ≤ threshold then none
  else
    (v.block? c).map fun b =>
      let field := t.field v.size anchor
      ⟨field 0, field 1, field 2, field 3, score, c, b⟩

def candidates (t : Tensor) (v : Vocabulary) (threshold : Binary32) : List Detection :=
  if t.Fits v.size then (List.range t.anchors).filterMap (t.candidate? v threshold) else []

/-! ### Decoding -/

def readBetter (t : Tensor) (classes anchor : Nat) (best : Binary32 × Nat) (c : Nat) :
    Except Outside (Binary32 × Nat) := do
  let score ← t.read classes anchor (boxFields + c)
  return if best.1 < score then (score, c) else best

def readBest (t : Tensor) (classes anchor : Nat) : Except Outside (Binary32 × Nat) :=
  (List.range classes).foldlM (t.readBetter classes anchor) (.lowest, 0)

/-- The block that an anchor stands for. Its box is only read if the score exceeds the threshold. -/
def readCandidate? (t : Tensor) (v : Vocabulary) (threshold : Binary32) (anchor : Nat) :
    Except Outside (Option Detection) := do
  let (score, c) ← t.readBest v.size anchor
  if score ≤ threshold then return none
  else
    match v.block? c with
    | none => return none
    | some b =>
      let x ← t.read v.size anchor 0
      let y ← t.read v.size anchor 1
      let width ← t.read v.size anchor 2
      let height ← t.read v.size anchor 3
      return some ⟨x, y, width, height, score, c, b⟩

/-- Adds the candidates of some more anchors, from the given one on, to those that have been
found. -/
def readOn (t : Tensor) (v : Vocabulary) (threshold : Binary32) :
    (left anchor : Nat) → Array Detection → Except Outside (Array Detection)
  | 0, _, found => .ok found
  | left + 1, anchor, found => do
    let candidate ← t.readCandidate? v threshold anchor
    t.readOn v threshold left (anchor + 1) (found ++ candidate.toArray)

def decode (t : Tensor) (v : Vocabulary) (threshold : Binary32) :
    Except Outside (List Detection) :=
  if t.FitsInWords v.size then
    (t.readOn v threshold t.anchors 0 #[]).map Array.toList
  else .ok []

/-! ### Notes -/

/-- What is reported about an anchor whose class has no block. -/
def anchorNotes (t : Tensor) (v : Vocabulary) (threshold : Binary32) (anchor : Nat) :
    List Entry :=
  let (score, c) := t.best v.size anchor
  if ¬ score ≤ threshold ∧ v.block? c = none then
    [Origin.decoder.warn s!"锚点 {anchor} 的类别 {c} 不在词表中"]
  else []

/-- What is reported when decoding comes to an end. -/
def candidatesNotes (t : Tensor) (v : Vocabulary) (threshold : Binary32) : List Entry :=
  if t.Fits v.size then
    (List.range t.anchors).flatMap (t.anchorNotes v threshold) ++
      [Origin.decoder.debug
        s!"{t.anchors} 个锚点中 {(t.candidates v threshold).length} 个超过阈值"]
  else if t.isEmpty then []
  else
    [Origin.decoder.warn <|
      s!"张量大小不匹配: 长度 {t.size}, 锚点 {t.anchors}, " ++
        s!"期望每锚点 {boxFields + v.size} 个字段"]

end Tensor

end TangibleBlocks
