/-!
Blank characters, the ones with the property `White_Space`, and what is done
with them: taking them off both ends of a text. Also the first occurrence of a
separator, which splits a text in two, and the lines of a text.
-/

namespace TangibleBlocks.Text

/-- Whether a character has the property `White_Space`. -/
def isBlank (c : Char) : Bool :=
  let n := c.toNat
  (9 ≤ n && n ≤ 13) || n == 0x20 || n == 0x85 || n == 0xA0 || n == 0x1680 ||
    (0x2000 ≤ n && n ≤ 0x200A) || n == 0x2028 || n == 0x2029 || n == 0x202F || n == 0x205F ||
    n == 0x3000

def dropBlankEnd (cs : List Char) : List Char :=
  (cs.reverse.dropWhile isBlank).reverse

/-- The text without the blanks at its two ends. -/
def trim (cs : List Char) : List Char :=
  dropBlankEnd (cs.dropWhile isBlank)

def trimString (s : String) : String :=
  String.ofList (trim s.toList)

/-- What stands before and after the first `mark`. -/
def splitAt? (mark : Char) : List Char → Option (List Char × List Char)
  | [] => none
  | c :: rest =>
    if c = mark then some ([], rest)
    else (splitAt? mark rest).map fun parts => (c :: parts.1, parts.2)

/-- The pieces between the marks; there is one more than there are marks. -/
def pieces (mark : Char) : List Char → List (List Char)
  | [] => [[]]
  | c :: rest =>
    if c = mark then [] :: pieces mark rest
    else
      match pieces mark rest with
      | [] => [[c]]
      | p :: ps => (c :: p) :: ps

/-- The lines of a text that a line break follows. A carriage return right before a line break
belongs to the break. -/
def lines (s : String) : List String :=
  (pieces '\n' s.toList).map fun line =>
    String.ofList (if line.getLast? = some '\r' then line.dropLast else line)

end TangibleBlocks.Text
