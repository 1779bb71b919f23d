import TangibleBlocks.Grid.Heading
import TangibleBlocks.Number.Numeral
import TangibleBlocks.Text.Blank

/-!
Cells of the grid. Coordinates are machine words, so the grid has an edge; a
move beyond it has no target. Cells are written as two numbers with a comma
between them.
-/

namespace TangibleBlocks

structure Cell where
  x : Int32
  y : Int32
  deriving DecidableEq, Inhabited

namespace Cell

def least : Int := -2147483648

def greatest : Int := 2147483647

/-- A coordinate, if it is on the grid. -/
def coordinate? (i : Int) : Option Int32 :=
  if least ≤ i ∧ i ≤ greatest then some (Int32.ofInt i) else none

/-- The cell at the given coordinates, if it is on the grid. -/
def ofInts? (x y : Int) : Option Cell :=
  match coordinate? x, coordinate? y with
  | some x, some y => some ⟨x, y⟩
  | _, _ => none

/-- The cell `distance` steps away. -/
def offset? (c : Cell) (h : Heading) (distance : Nat) : Option Cell :=
  ofInts? (c.x.toInt + h.delta.1 * distance) (c.y.toInt + h.delta.2 * distance)

/-- The neighbour of a cell. -/
def next? (c : Cell) (h : Heading) : Option Cell :=
  c.offset? h 1

/-- The cell as a pair. -/
def text (c : Cell) : String :=
  s!"({c.x.toInt}, {c.y.toInt})"

/-- A text that does not name a cell. -/
structure Malformed where
  text : String
  deriving DecidableEq

def Malformed.message (e : Malformed) : String :=
  "格子坐标格式错误: " ++ e.text ++ "，应为 x,y"

/-- A coordinate with blanks around it. -/
def readCoordinate? (cs : List Char) : Option Int32 :=
  (readInteger? least greatest (Text.trim cs)).map Int32.ofInt

def read? (cs : List Char) : Option Cell :=
  match Text.splitAt? ',' cs with
  | none => none
  | some (before, after) =>
    match readCoordinate? before, readCoordinate? after with
    | some x, some y => some ⟨x, y⟩
    | _, _ => none

def ofText (text : String) : Except Malformed Cell :=
  match read? text.toList with
  | some c => .ok c
  | none => .error ⟨text⟩

end Cell

end TangibleBlocks
