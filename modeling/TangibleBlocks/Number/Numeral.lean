import TangibleBlocks.Number.Rounding

/-!
Reading numbers from text: whole numbers with an optional sign, within bounds,
and single precision numbers in decimal notation. Nothing may stand around the
number, not even blanks.
-/

namespace TangibleBlocks

def digitValue (c : Char) : Nat :=
  c.toNat - '0'.toNat

def digitsValue (cs : List Char) : Nat :=
  cs.foldl (fun n c => n * 10 + digitValue c) 0

/-- One or more digits. -/
def readDigits? (cs : List Char) : Option Nat :=
  if cs ≠ [] ∧ cs.all Char.isDigit = true then some (digitsValue cs) else none

/-- A natural number below `2 ^ width`; a plus sign may precede it. -/
def readNatural? (width : Nat) (cs : List Char) : Option Nat :=
  let digits :=
    match cs with
    | '+' :: rest => rest
    | _ => cs
  (readDigits? digits).filter fun n => decide (n < 1 <<< width)

/-- An integer between `low` and `high`; either sign may precede it. -/
def readInteger? (low high : Int) (cs : List Char) : Option Int :=
  let value : Option Int :=
    match cs with
    | '+' :: rest => (readDigits? rest).map fun n => (n : Int)
    | '-' :: rest => (readDigits? rest).map fun n => -(n : Int)
    | _ => (readDigits? cs).map fun n => (n : Int)
  value.filter fun i => decide (low ≤ i) && decide (i ≤ high)

namespace Binary32

/-- Digits with an optional point and an optional exponent. There is a digit before the exponent,
and one in it. -/
def readMagnitude? (negative : Bool) (cs : List Char) : Option Binary32 :=
  let whole := cs.takeWhile Char.isDigit
  let afterWhole := cs.dropWhile Char.isDigit
  let (places, afterPlaces) :=
    match afterWhole with
    | '.' :: rest => (rest.takeWhile Char.isDigit, rest.dropWhile Char.isDigit)
    | _ => ([], afterWhole)
  let exponent : Option Int :=
    match afterPlaces with
    | [] => some 0
    | c :: rest =>
      if c = 'e' ∨ c = 'E' then
        match rest with
        | '+' :: ds => (readDigits? ds).map fun n => (n : Int)
        | '-' :: ds => (readDigits? ds).map fun n => -(n : Int)
        | ds => (readDigits? ds).map fun n => (n : Int)
      else none
  if whole = [] ∧ places = [] then none
  else exponent.map fun e => ofDecimal negative (digitsValue (whole ++ places)) (e - places.length)

/-- The number a text stands for: decimal notation, `inf`, `infinity` or `nan` in any case, with
an optional sign. -/
def read? (text : String) : Option Binary32 :=
  let (negative, body) :=
    match text.toList with
    | '-' :: rest => (true, rest)
    | '+' :: rest => (false, rest)
    | cs => (false, cs)
  let word := String.ofList (body.map Char.toLower)
  let special : Option Binary32 :=
    if word = "inf" ∨ word = "infinity" then some infinity
    else if word = "nan" then some nan
    else none
  match special with
  | some x => some (if negative then x.negate else x)
  | none => readMagnitude? negative body

end Binary32

end TangibleBlocks
