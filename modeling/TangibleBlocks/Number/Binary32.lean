/-!
Single precision numbers, kept as the bit patterns that sensors and files
deliver them in. Two orders matter to the rest of the library and both are
defined on the bits, so that they can be reasoned about: the usual comparison,
for which a NaN is comparable with nothing and the two zeros are equal, and the
total order used for sorting, in which every bit pattern has a place of its own.
Arithmetic is the machine's.
-/

namespace TangibleBlocks

/-- A single precision number as its bit pattern. -/
structure Binary32 where
  bits : UInt32
  deriving DecidableEq, Inhabited

namespace Binary32

def isNegative (x : Binary32) : Bool :=
  decide (0x80000000 ≤ x.bits.toNat)

/-- The bit pattern without its sign. -/
def magnitude (x : Binary32) : Nat :=
  x.bits.toNat % 0x80000000

def isNaN (x : Binary32) : Bool :=
  decide (0x7f800000 < x.magnitude)

def isInfinite (x : Binary32) : Bool :=
  decide (x.magnitude = 0x7f800000)

/-- The place of a number on the line; the two zeros share one. -/
def position (x : Binary32) : Int :=
  if x.isNegative then -(x.magnitude : Int) else (x.magnitude : Int)

/-- The place of a bit pattern in the total order
`-NaN < -∞ < … < -0 < +0 < … < ∞ < NaN`. -/
def rank (x : Binary32) : Nat :=
  if x.isNegative then 0xffffffff - x.bits.toNat else x.bits.toNat + 0x80000000

def lt (x y : Binary32) : Bool :=
  !x.isNaN && !y.isNaN && decide (x.position < y.position)

def le (x y : Binary32) : Bool :=
  !x.isNaN && !y.isNaN && decide (x.position ≤ y.position)

instance : LT Binary32 := ⟨fun x y => x.lt y = true⟩

instance : LE Binary32 := ⟨fun x y => x.le y = true⟩

instance (x y : Binary32) : Decidable (x < y) :=
  inferInstanceAs (Decidable (x.lt y = true))

instance (x y : Binary32) : Decidable (x ≤ y) :=
  inferInstanceAs (Decidable (x.le y = true))

def zero : Binary32 := ⟨0⟩

def two : Binary32 := ⟨0x40000000⟩

def hundred : Binary32 := ⟨0x42c80000⟩

def infinity : Binary32 := ⟨0x7f800000⟩

def nan : Binary32 := ⟨0x7fc00000⟩

/-- The least finite number. -/
def lowest : Binary32 := ⟨0xff7fffff⟩

def negate (x : Binary32) : Binary32 :=
  ⟨x.bits ^^^ 0x80000000⟩

def abs (x : Binary32) : Binary32 :=
  ⟨x.bits &&& 0x7fffffff⟩

def toFloat32 (x : Binary32) : Float32 :=
  Float32.ofBits x.bits

def ofFloat32 (x : Float32) : Binary32 :=
  ⟨x.toBits⟩

instance : Add Binary32 := ⟨fun x y => ofFloat32 (x.toFloat32 + y.toFloat32)⟩

instance : Sub Binary32 := ⟨fun x y => ofFloat32 (x.toFloat32 - y.toFloat32)⟩

instance : Mul Binary32 := ⟨fun x y => ofFloat32 (x.toFloat32 * y.toFloat32)⟩

instance : Div Binary32 := ⟨fun x y => ofFloat32 (x.toFloat32 / y.toFloat32)⟩

/-- The larger of two numbers, a NaN giving way to the other one. -/
def larger (x y : Binary32) : Binary32 :=
  if x.isNaN then y else if y.isNaN then x else if x < y then y else x

/-- The smaller of two numbers, a NaN giving way to the other one. -/
def smaller (x y : Binary32) : Binary32 :=
  if x.isNaN then y else if y.isNaN then x else if y < x then y else x

theorem lt_iff {x y : Binary32} :
    x < y ↔ x.isNaN = false ∧ y.isNaN = false ∧ x.position < y.position := by
  show x.lt y = true ↔ _
  simp [lt, and_assoc]

theorem le_iff {x y : Binary32} :
    x ≤ y ↔ x.isNaN = false ∧ y.isNaN = false ∧ x.position ≤ y.position := by
  show x.le y = true ↔ _
  simp [le, and_assoc]

theorem not_lt_self (x : Binary32) : ¬ x < x := by
  simp [lt_iff]

theorem bits_lt (x : Binary32) : x.bits.toNat < 0x100000000 :=
  x.bits.toNat_lt

/-- Different bit patterns have different places in the total order. -/
theorem rank_injective {x y : Binary32} (h : x.rank = y.rank) : x = y := by
  have hx := bits_lt x
  have hy := bits_lt y
  have : x.bits.toNat = y.bits.toNat := by
    simp only [rank, isNegative, decide_eq_true_eq] at h
    split at h <;> split at h <;> omega
  cases x
  cases y
  simpa [UInt32.toNat_inj] using this

end Binary32

end TangibleBlocks
