import TangibleBlocks.Text.Hexadecimal

/-!
Tables of character codes. A table is written as a text: numbers in hexadecimal
with blanks between them, and a comma behind each row but the last.
-/

namespace TangibleBlocks.Text

/-- A table that is being read: the rows that are done and the numbers of the row in progress,
both in reverse, and the number in progress. -/
structure Rows where
  done : List (List Nat)
  row : List Nat
  number : Option Nat

namespace Rows

/-- The same, with the number that is being read put into its row. -/
def endNumber (r : Rows) : Rows :=
  match r.number with
  | none => r
  | some n => { r with row := n :: r.row, number := none }

def endRow (r : Rows) : Rows :=
  let e := r.endNumber
  ⟨e.row.reverse :: e.done, [], none⟩

def next (r : Rows) (c : Char) : Rows :=
  match hexValue? c with
  | some d => { r with number := some (r.number.getD 0 * 16 + d) }
  | none => if c = ',' then r.endRow else r.endNumber

end Rows

/-- The rows that a text stands for. -/
def codeRows (text : String) : List (List Nat) :=
  (text.toList.foldl Rows.next ⟨[], [], none⟩).endRow.done.reverse

/-- A stretch of codes. -/
structure Span where
  first : Nat
  last : Nat
  deriving DecidableEq

namespace Span

def covers (s : Span) (n : Nat) : Bool :=
  decide (s.first ≤ n) && decide (n ≤ s.last)

/-- A row with one number is a single code. -/
def ofRow? : List Nat → Option Span
  | [n] => some ⟨n, n⟩
  | [first, last] => some ⟨first, last⟩
  | _ => none

end Span

def spans (text : String) : List Span :=
  (codeRows text).filterMap Span.ofRow?

def isIn (table : List Span) (c : Char) : Bool :=
  table.any fun s => s.covers c.toNat

end TangibleBlocks.Text
