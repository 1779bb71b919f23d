import TangibleBlocks.Number.Rounding

/-!
Decimal text of single precision numbers. The shortest form is the shortest
decimal that reads back as the same number, and of those the nearest; of two that
are equally near, data files take the even one and plain text the greater. The
fixed form rounds the exact value to a given number of places, a half going to the
even neighbour. All are computed from the exact binary value.
-/

namespace TangibleBlocks

/-- The number `digits · 10 ^ exponent`. -/
structure Decimal where
  digits : Nat
  exponent : Int
  deriving DecidableEq

/-- How many decimal digits a number is written with. -/
def digitCount (n : Nat) : Nat :=
  (Nat.toDigits 10 n).length

/-- The exponent of the largest power of ten that is at most `num / den`. -/
def decimalExponent (num den : Nat) : Int :=
  if den ≤ num then (digitCount (num / den) : Int) - 1
  else
    let scale := digitCount (den / num)
    if den ≤ num * Nat.pow 10 (scale - 1) then -((scale : Int) - 1) else -(scale : Int)

namespace Decimal

def dropZeros : Nat → Decimal → Decimal
  | 0, d => d
  | fuel + 1, d =>
    if d.digits ≠ 0 ∧ d.digits % 10 = 0 then dropZeros fuel ⟨d.digits / 10, d.exponent + 1⟩ else d

/-- The same number without trailing zeros among its digits. -/
def normalize (d : Decimal) : Decimal :=
  if d.digits = 0 then ⟨0, 0⟩ else dropZeros (digitCount d.digits) d

/-- The exponent of the leading digit. -/
def order (d : Decimal) : Int :=
  (digitCount d.digits : Int) - 1 + d.exponent

/-- The number without an exponent: `120`, `1.2`, `0.012`. -/
def plain (d : Decimal) : String :=
  let ds := Nat.toDigits 10 d.digits
  if 0 ≤ d.exponent then String.ofList (ds ++ List.replicate d.exponent.toNat '0')
  else
    let places := (-d.exponent).toNat
    let padded := List.replicate (places + 1 - ds.length) '0' ++ ds
    let whole := padded.length - places
    String.ofList (padded.take whole ++ '.' :: padded.drop whole)

/-- The number with one digit before the point: `1.2e+13`, `5e-8`. -/
def scientific (d : Decimal) : String :=
  let ds := Nat.toDigits 10 d.digits
  let mantissa :=
    match ds with
    | [] => []
    | [c] => [c]
    | c :: rest => c :: '.' :: rest
  let mark := if 0 ≤ d.order then "e+" else "e-"
  String.ofList mantissa ++ mark ++ toString d.order.natAbs

end Decimal

namespace Binary32

/-- The exponent field, with the subnormal numbers counted to the lowest normal binade. -/
def binade (x : Binary32) : Nat :=
  max 1 (x.magnitude / 0x800000)

def significand (x : Binary32) : Nat :=
  if x.magnitude < 0x800000 then x.magnitude else 0x800000 + x.magnitude % 0x800000

/-- A finite number is `± significand · 2 ^ scale`. -/
def scale (x : Binary32) : Int :=
  (x.binade : Int) - 150

/-- The lowest of the numbers of a binade is nearer to its lower neighbour. -/
def isBinadeFloor (x : Binary32) : Bool :=
  decide (x.magnitude % 0x800000 = 0) && decide (1 < x.binade)

/-- Which of two decimals a number takes that lies halfway between them. -/
inductive Halfway where
  | even
  | up
  deriving DecidableEq

/-- One of the two neighbours of `value / unit` on the grid of `rise / unit`, if it lies in the
interval from `low` to `high`: the nearer one, or the one that `halfway` says. -/
def neighbour? (halfway : Halfway) (unit rise value low high : Nat) (closed : Bool) : Option Nat :=
  let step := rise * unit
  let below := value / step
  let inside (k : Nat) : Bool :=
    if closed then decide (low ≤ k * step) && decide (k * step ≤ high)
    else decide (low < k * step) && decide (k * step < high)
  let down := value - below * step
  let up := (below + 1) * step - value
  match inside below, inside (below + 1) with
  | true, true =>
    if down < up then some below
    else if up < down then some (below + 1)
    else if halfway = .even ∧ below % 2 = 0 then some below else some (below + 1)
  | true, false => some below
  | false, true => some (below + 1)
  | false, false => none

/-- The shortest decimal that reads back as the magnitude of a finite number other than zero.
Nine digits always suffice. -/
def shortest (halfway : Halfway) (x : Binary32) : Decimal :=
  let num (quarters : Nat) : Nat :=
    if 0 ≤ x.scale then quarters <<< x.scale.toNat else quarters
  let den : Nat := if 0 ≤ x.scale then 4 else 4 <<< (-x.scale).toNat
  let value := num (4 * x.significand)
  let low := num (4 * x.significand - if x.isBinadeFloor then 1 else 2)
  let high := num (4 * x.significand + 2)
  let closed := x.significand % 2 == 0
  let lead := decimalExponent value den
  let attempt (count : Nat) : Option Decimal :=
    let e : Int := lead - count
    let found :=
      if 0 ≤ e then neighbour? halfway den (Nat.pow 10 e.toNat) value low high closed
      else
        let p := Nat.pow 10 (-e).toNat
        neighbour? halfway den 1 (value * p) (low * p) (high * p) closed
    found.map fun k => Decimal.normalize ⟨k, e⟩
  ((List.range 9).findSome? attempt).getD ⟨0, 0⟩

def signText (x : Binary32) : String :=
  if x.isNegative then "-" else ""

/-- The text of a number that is not finite. -/
def specialText? (x : Binary32) : Option String :=
  if x.isNaN then some "NaN"
  else if x.isInfinite then some (x.signText ++ "inf")
  else none

/-- Shortest text without an exponent. -/
def toPlain (x : Binary32) : String :=
  match x.specialText? with
  | some t => t
  | none => x.signText ++ (if x.magnitude = 0 then "0" else (x.shortest .up).plain)

/-- The exact value to `places` places. -/
def toFixed (places : Nat) (x : Binary32) : String :=
  match x.specialText? with
  | some t => t
  | none =>
    let num := x.significand * Nat.pow 10 places
    let units :=
      if 0 ≤ x.scale then num <<< x.scale.toNat else roundDiv num (1 <<< (-x.scale).toNat)
    x.signText ++ Decimal.plain ⟨units, -(places : Int)⟩

/-- Text in data files: shortest, plain when the leading digit lies between the sixth place and
the trillions, with at least one place, otherwise with an exponent. Only finite numbers have one. -/
def toData? (x : Binary32) : Option String :=
  if x.isNaN || x.isInfinite then none
  else if x.magnitude = 0 then some (x.signText ++ "0.0")
  else
    let d := x.shortest .even
    let body :=
      if -6 ≤ d.order ∧ d.order ≤ 12 then
        if 0 ≤ d.exponent then d.plain ++ ".0" else d.plain
      else d.scientific
    some (x.signText ++ body)

end Binary32

end TangibleBlocks
