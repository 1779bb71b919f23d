/-!
Hexadecimal digits. They are read in both cases; numbers are written in small
letters, without needless zeros.
-/

namespace TangibleBlocks.Text

def hexValue? (c : Char) : Option Nat :=
  if c.isDigit then some (c.toNat - 48)
  else if 'a' ≤ c ∧ c ≤ 'f' then some (c.toNat - 87)
  else if 'A' ≤ c ∧ c ≤ 'F' then some (c.toNat - 55)
  else none

def hexText (n : Nat) : String :=
  String.ofList (Nat.toDigits 16 n)

end TangibleBlocks.Text
