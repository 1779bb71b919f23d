import TangibleBlocks.Text.Blank

/-!
Punycode, which writes any text with basic characters. The basic characters
come first. Behind a hyphen the others follow in the order of their codes, each
as a number that tells how many places, counted over all codes in turn, lie
between it and the one before. The digits of a number stand with the lowest one
in front, and the digit that ends a number is one below a threshold, which
adapts to the size of the numbers before.
-/

namespace TangibleBlocks.Url.Punycode

def isBasic (c : Char) : Bool :=
  decide (c.toNat < 128)

/-- The letters are the digits up to twenty-five, the numerals the ten after them. -/
def digit (n : Nat) : Char :=
  if n < 26 then Char.ofNat (97 + n) else Char.ofNat (22 + n)

def digitValue? (c : Char) : Option Nat :=
  if c.isLower then some (c.toNat - 97)
  else if c.isUpper then some (c.toNat - 65)
  else if c.isDigit then some (c.toNat - 22)
  else none

/-- A digit below this one ends a number. The first digit has the weight `36`, the next `72`. -/
def threshold (weight bias : Nat) : Nat :=
  if weight ≤ bias then 1 else if bias + 26 ≤ weight then 26 else weight - bias

theorem threshold_pos (weight bias : Nat) : 0 < threshold weight bias := by
  unfold threshold
  split
  · omega
  · split <;> omega

/-- Divides a number until it is small, and counts `36` for each division. -/
def reduce (n count : Nat) : Nat × Nat :=
  if 455 < n then reduce (n / 35) (count + 36) else (n, count)
termination_by n
decreasing_by exact Nat.div_lt_self (by omega) (by omega)

/-- The bias behind a number, of which there are `length` characters with the one it stands for. -/
def adapt (number length : Nat) (isFirst : Bool) : Nat :=
  let damped := if isFirst then number / 700 else number / 2
  let (rest, count) := reduce (damped + damped / length) 0
  count + 36 * rest / (rest + 38)

def firstBias : Nat := 72

def firstCode : Nat := 128

/-! ### Writing -/

def numberDigits (bias weight n : Nat) : List Char :=
  let t := threshold weight bias
  if n < t then [digit n]
  else digit (t + (n - t) % (36 - t)) :: numberDigits bias (weight + 36) ((n - t) / (36 - t))
termination_by n
decreasing_by
  have := threshold_pos weight bias
  exact Nat.lt_of_le_of_lt (Nat.div_le_self _ _) (by omega)

/-- What has been written, the places passed since, the bias, and how many characters are done. -/
structure Writing where
  text : List Char
  places : Nat
  bias : Nat
  length : Nat

namespace Writing

/-- Passes one character while those with a given code are written. -/
def pass (isFirst : Nat → Bool) (code : Nat) (w : Writing) (c : Char) : Writing :=
  if c.toNat < code then { w with places := w.places + 1 }
  else if c.toNat = code then
    ⟨w.text ++ numberDigits w.bias 36 w.places, 0,
      adapt w.places (w.length + 1) (isFirst w.length), w.length + 1⟩
  else w

/-- Writes the characters with each of the codes. The codes below `next` are done. -/
def writeCodes (isFirst : Nat → Bool) (cs : List Char) : Nat → List Nat → Writing → Writing
  | _, [], w => w
  | next, code :: rest, w =>
    let before := { w with places := w.places + (code - next) * (w.length + 1) }
    let after := cs.foldl (pass isFirst code) before
    writeCodes isFirst cs (code + 1) rest { after with places := after.places + 1 }

end Writing

/-- The codes of the characters that are not basic, in order. -/
def otherCodes (cs : List Char) : List Nat :=
  (((cs.filter fun c => !isBasic c).map Char.toNat).mergeSort fun a b => decide (a ≤ b)).eraseDups

def encode (cs : List Char) : List Char :=
  let basic := cs.filter isBasic
  let w := Writing.writeCodes (· == basic.length) cs firstCode (otherCodes cs)
    ⟨[], 0, firstBias, basic.length⟩
  basic ++ (if basic = [] then [] else ['-']) ++ w.text

/-! ### Reading -/

/-- No number, and no weight of a digit, may be greater. -/
def limit : Nat := UInt32.size

/-- The number that begins a text, added to `sum`, and what stands behind it. -/
def readNumber (bias : Nat) : (weight factor sum : Nat) → List Char → Option (Nat × List Char)
  | _, _, _, [] => none
  | weight, factor, sum, c :: rest =>
    match digitValue? c with
    | none => none
    | some d =>
      let t := threshold weight bias
      if limit ≤ sum + d * factor then none
      else if d < t then some (sum + d * factor, rest)
      else if limit ≤ factor * (36 - t) then none
      else readNumber bias (weight + 36) (factor * (36 - t)) (sum + d * factor) rest

theorem length_of_readNumber {bias : Nat} {cs : List Char} {weight factor sum : Nat}
    {p : Nat × List Char} (h : readNumber bias weight factor sum cs = some p) :
    p.2.length < cs.length := by
  induction cs generalizing weight factor sum with
  | nil => simp [readNumber] at h
  | cons c rest ih =>
    unfold readNumber at h
    split at h
    · simp at h
    · dsimp only at h
      split at h
      · simp at h
      · split at h
        · simp only [Option.some.injEq] at h
          subst h
          simp
        · split at h
          · simp at h
          · have := ih h
            simp only [List.length_cons]
            omega

/-- Inserts one character after the other, each at its place. -/
def readOthers (bias code place : Nat) (done : List Char) (cs : List Char) :
    Option (List Char) :=
  if cs = [] then some done
  else
    match h : readNumber bias 36 1 place cs with
    | none => none
    | some (reached, rest) =>
      let length := done.length + 1
      let next := code + reached / length
      if Nat.isValidChar next then
        have : rest.length < cs.length := length_of_readNumber h
        readOthers (adapt (reached - place) length (place == 0)) next (reached % length + 1)
          (done.insertIdx (reached % length) (Char.ofNat next)) rest
      else none
termination_by cs.length

/-- What stands before and after the last hyphen. A hyphen in front separates nothing. -/
def splitBasic (cs : List Char) : List Char × List Char :=
  match Text.splitAt? '-' cs.reverse with
  | none => ([], cs)
  | some (_, []) => ([], cs)
  | some (others, basic) => (basic.reverse, others.reverse)

def decode? (cs : List Char) : Option (List Char) :=
  let (basic, others) := splitBasic cs
  if basic.all isBasic then readOthers firstBias firstCode 0 basic others else none

end TangibleBlocks.Url.Punycode
