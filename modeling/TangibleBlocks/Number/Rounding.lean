import TangibleBlocks.Number.Binary32

/-!
Rounding exact quotients: to the nearest integer and to the nearest single
precision number, ties going to the even neighbour in both cases. Everything is
computed on natural numbers.
-/

namespace TangibleBlocks

/-- The integer nearest to `num / den`, the even one of two. -/
def roundDiv (num den : Nat) : Nat :=
  let q := num / den
  let r := num % den
  if 2 * r < den then q
  else if den < 2 * r then q + 1
  else if q % 2 = 0 then q else q + 1

/-- The exponent of the largest power of two that is at most `num / den`. -/
def binaryExponent (num den : Nat) : Int :=
  let guess : Int := (num.log2 : Int) - (den.log2 : Int)
  let fits : Bool :=
    if 0 ≤ guess then decide (den <<< guess.toNat ≤ num)
    else decide (den ≤ num <<< (-guess).toNat)
  if fits then guess else guess - 1

namespace Binary32

def ofMagnitude (negative : Bool) (magnitude : Nat) : Binary32 :=
  ⟨UInt32.ofNat (if negative then 0x80000000 + magnitude else magnitude)⟩

/-- The number nearest to `± num / den`, for positive `den`. Beyond the largest
finite number lies the infinity of the same sign. -/
def ofRatio (negative : Bool) (num den : Nat) : Binary32 :=
  if num = 0 then ofMagnitude negative 0
  else
    let step : Int := max (binaryExponent num den - 23) (-149)
    let units :=
      if 0 ≤ step then roundDiv num (den <<< step.toNat)
      else roundDiv (num <<< (-step).toNat) den
    let pattern := (step + 149).toNat * 0x800000 + units
    ofMagnitude negative (min pattern 0x7f800000)

def ofInt (i : Int) : Binary32 :=
  ofRatio (decide (i < 0)) i.natAbs 1

/-- The number nearest to `± digits · 10 ^ exponent`. The two early answers only
keep the powers of ten small. -/
def ofDecimal (negative : Bool) (digits : Nat) (exponent : Int) : Binary32 :=
  if digits = 0 then ofMagnitude negative 0
  else if 60 < exponent then ofMagnitude negative 0x7f800000
  else if exponent + (digits.log2 : Int) < -160 then ofMagnitude negative 0
  else if 0 ≤ exponent then ofRatio negative (digits * Nat.pow 10 exponent.toNat) 1
  else ofRatio negative digits (Nat.pow 10 (-exponent).toNat)

end Binary32

end TangibleBlocks
