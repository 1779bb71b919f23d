import TangibleBlocks.Detection.Tensor
import TangibleBlocks.Number.Numeral

/-!
The shape that data are given when they become a tensor. It may be told by the
query of an address; the number of classes has to be that of the vocabulary, and
the number of anchors follows from the amount of data unless it is told.
-/

namespace TangibleBlocks

structure Shape where
  anchors : Option Nat
  classes : Option Nat
  layout : Layout
  deriving DecidableEq, Inhabited

namespace Shape

inductive Fault where
  | invalidQuery (key value : String)
  | classMismatch (told actual : Nat)
  deriving DecidableEq

def Fault.message : Fault → String
  | invalidQuery k v => s!"invalid query '{k}={v}'"
  | classMismatch a b => s!"classes={a} in URL does not match the {b}-class vocabulary"

def unknown : Shape :=
  ⟨none, none, .byAnchor⟩

/-- Takes one pair of a query into account. Other keys have no meaning here. -/
def update (s : Shape) (pair : String × String) : Except Fault Shape :=
  let (key, value) := pair
  let number := readNatural? 64 value.toList
  if key = "anchors" then
    match number with
    | some n => .ok { s with anchors := some n }
    | none => .error (.invalidQuery key value)
  else if key = "classes" then
    match number with
    | some n => .ok { s with classes := some n }
    | none => .error (.invalidQuery key value)
  else if key = "layout" then
    match Layout.ofName? value with
    | some l => .ok { s with layout := l }
    | none => .error (.invalidQuery key value)
  else .ok s

def ofQuery (pairs : List (String × String)) : Except Fault Shape :=
  pairs.foldlM update unknown

/-- The number of classes, that of the full set unless it is told. -/
def classCount (s : Shape) : Nat :=
  s.classes.getD 20

/-- The shape for a vocabulary with `n` classes. -/
def withClasses (s : Shape) (n : Nat) : Except Fault Shape :=
  match s.classes with
  | some c => if c = n then .ok s else .error (.classMismatch c n)
  | none => .ok { s with classes := some n }

/-- The number of anchors of some amount of data, zero if the data cannot be divided evenly. The
tools only ask for it when the shape is good for a vocabulary. So there are no more classes than
blocks, and what an anchor needs is far from filling a word. -/
def anchorCount (s : Shape) (size : Nat) : Nat :=
  let stride := Tensor.boxFields + s.classCount
  s.anchors.getD (if size % stride = 0 then size / stride else 0)

def tensor (s : Shape) (data : Array Binary32) : Tensor :=
  ⟨data, s.anchorCount data.size, s.layout⟩

end Shape

end TangibleBlocks
