import TangibleBlocks.Number.Binary32

/-!
The raw output of a detector: for each anchor the four numbers of a box and a
score for every class. The numbers are stored one anchor after the other or one
field after the other. Whether they are as many as there should be, and where
each of them is, is worked out in machine words, so a product that is too large
for a word loses its upper part.
-/

namespace TangibleBlocks

inductive Layout where
  | byAnchor
  | byField
  deriving DecidableEq, Inhabited

namespace Layout

def ofName? (text : String) : Option Layout :=
  if text = "anchor" ∨ text = "anchor-major" then some byAnchor
  else if text = "channel" ∨ text = "channel-major" then some byField
  else none

end Layout

structure Tensor where
  data : Array Binary32
  anchors : Nat
  layout : Layout
  deriving DecidableEq, Inhabited

namespace Tensor

/-- How many numbers make a box. -/
def boxFields : Nat := 4

def empty : Tensor :=
  ⟨#[], 0, .byAnchor⟩

def size (t : Tensor) : Nat :=
  t.data.size

def isEmpty (t : Tensor) : Bool :=
  t.data.isEmpty

/-- Whether the data are those of at least one anchor with the given number of classes. -/
def Fits (t : Tensor) (classes : Nat) : Prop :=
  0 < t.anchors ∧ t.size = t.anchors * (boxFields + classes)

instance (t : Tensor) (classes : Nat) : Decidable (t.Fits classes) :=
  inferInstanceAs (Decidable (_ ∧ _))

/-- The test whether a tensor fits, in machine words. -/
def FitsInWords (t : Tensor) (classes : Nat) : Prop :=
  0 < t.anchors ∧
    t.size = (UInt64.ofNat t.anchors * (.ofNat boxFields + .ofNat classes)).toNat

instance (t : Tensor) (classes : Nat) : Decidable (t.FitsInWords classes) :=
  inferInstanceAs (Decidable (_ ∧ _))

/-- Where a field of an anchor is stored. -/
def index (t : Tensor) (classes anchor field : Nat) : Nat :=
  match t.layout with
  | .byAnchor => anchor * (boxFields + classes) + field
  | .byField => field * t.anchors + anchor

/-- The place of a field, computed in machine words. -/
def indexInWords (t : Tensor) (classes anchor field : Nat) : UInt64 :=
  match t.layout with
  | .byAnchor => .ofNat anchor * (.ofNat boxFields + .ofNat classes) + .ofNat field
  | .byField => .ofNat field * .ofNat t.anchors + .ofNat anchor

/-- A field of an anchor. The tensor has to fit the number of classes. -/
def field (t : Tensor) (classes anchor field : Nat) : Binary32 :=
  t.data.getD (t.index classes anchor field) .zero

/-- A place beyond the data was to be read. -/
structure Outside where
  place : Nat
  size : Nat
  deriving DecidableEq

def Outside.message (o : Outside) : String :=
  s!"index out of bounds: the len is {o.size} but the index is {o.place}"

/-- A field of an anchor, if there is anything in its place. -/
def read (t : Tensor) (classes anchor field : Nat) : Except Outside Binary32 :=
  let place := (t.indexInWords classes anchor field).toNat
  match t.data[place]? with
  | some x => .ok x
  | none => .error ⟨place, t.size⟩

theorem index_lt {t : Tensor} {classes anchor field : Nat} (h : t.Fits classes)
    (ha : anchor < t.anchors) (hf : field < boxFields + classes) :
    t.index classes anchor field < t.size := by
  obtain ⟨-, hs⟩ := h
  rw [hs]
  unfold index
  split
  · calc anchor * (boxFields + classes) + field
        < anchor * (boxFields + classes) + (boxFields + classes) := by omega
      _ = (anchor + 1) * (boxFields + classes) := by rw [Nat.succ_mul]
      _ ≤ t.anchors * (boxFields + classes) := Nat.mul_le_mul_right _ ha
  · calc field * t.anchors + anchor < field * t.anchors + t.anchors := by omega
      _ = (field + 1) * t.anchors := by rw [Nat.succ_mul]
      _ ≤ (boxFields + classes) * t.anchors := Nat.mul_le_mul_right _ hf
      _ = t.anchors * (boxFields + classes) := Nat.mul_comm _ _

end Tensor

end TangibleBlocks
