import TangibleBlocks.Number.Decimal

/-!
JSON values. A number is an integer that fits a machine word, a decimal as it
was written, or a single precision number that is to be written. The members of
an object keep their order.
-/

namespace TangibleBlocks

namespace Json

inductive Number where
  | integer (value : Int)
  | decimal (negative : Bool) (significand : Nat) (exponent : Int)
  | single (value : Binary32)
  deriving DecidableEq

/-- The value of `significand · 10 ^ exponent` in double precision, computed with one product or
quotient by a power of ten, and more quotients by `1e308` before it for very small numbers. There
is none if it is too large. -/
def scaled? : Nat → Float → Int → Option Float
  | 0, _, _ => none
  | fuel + 1, f, e =>
    if -308 ≤ e ∧ e ≤ 308 then
      let power := Float.ofScientific 1 false e.natAbs
      if 0 ≤ e then
        let g := f * power
        if g.isInf then none else some g
      else some (f / power)
    else if f == 0.0 then some f
    else if 0 ≤ e then none
    else scaled? fuel (f / 1e308) (e + 308)

def real? (negative : Bool) (significand : Nat) (exponent : Int) : Option Float :=
  (scaled? 8 (Float.ofNat significand) exponent).map fun f => if negative then -f else f

namespace Number

/-- The single precision number nearest to an integer, or to the double precision value of a
decimal. -/
def toBinary32 : Number → Binary32
  | integer i => Binary32.ofInt i
  | decimal n s e => Binary32.ofFloat32 ((real? n s e).getD 0.0).toFloat32
  | single x => x

def text : Number → String
  | integer i => toString i
  | decimal n s e => (if n then "-" else "") ++ toString s ++ "e" ++ toString e
  | single x => x.toData?.getD "null"

end Number

end Json

inductive Json where
  | null
  | bool (value : Bool)
  | number (value : Json.Number)
  | string (value : String)
  | array (items : List Json)
  | object (members : List (String × Json))

namespace Json

instance : Inhabited Json := ⟨null⟩

def ofNat (n : Nat) : Json :=
  number (.integer n)

def ofInt (i : Int) : Json :=
  number (.integer i)

def ofBinary32 (x : Binary32) : Json :=
  number (.single x)

end Json

end TangibleBlocks
