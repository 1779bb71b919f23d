import TangibleBlocks.Text.Blank
import TangibleBlocks.Text.Hexadecimal
import TangibleBlocks.Text.Utf8

/-!
Percent encoding. A byte is written as a percent sign and two hexadecimal
digits; which characters have to be written so depends on the part of the
address they stand in. Reading leaves everything else as it is.
-/

namespace TangibleBlocks.Url

def hexDigit (n : Nat) : Char :=
  if n < 10 then Char.ofNat (48 + n) else Char.ofNat (55 + n)

def encodeByte (b : UInt8) : List Char :=
  ['%', hexDigit (b.toNat / 16), hexDigit (b.toNat % 16)]

/-- Writes the marked characters, and all that are not printable characters of the basic alphabet,
as bytes. -/
def encode (marked : Char → Bool) (cs : List Char) : List Char :=
  cs.flatMap fun c =>
    if c.toNat < 32 || 126 < c.toNat || marked c then
      (Utf8.encode (String.singleton c)).flatMap encodeByte
    else [c]

/-- Nothing is marked in addresses without structure. -/
def markedNowhere (_ : Char) : Bool :=
  false

def markedInFragment (c : Char) : Bool :=
  [' ', '"', '<', '>', Char.ofNat 96].contains c

def markedInPath (c : Char) : Bool :=
  markedInFragment c || ['#', '?', '\x7b', '\x7d'].contains c

def markedInCredentials (c : Char) : Bool :=
  markedInPath c || ['/', ':', ';', '=', '@', '[', '\\', ']', '^', '|'].contains c

/-- In queries, a quote is marked for the well-known schemes only. -/
def markedInQuery (wellKnown : Bool) (c : Char) : Bool :=
  [' ', '"', '#', '<', '>'].contains c || (wellKnown && c == '\'')

/-- The bytes of a text, with escapes resolved. -/
def decodeBytes : List UInt8 → List UInt8
  | 0x25 :: a :: b :: rest =>
    match Text.hexValue? (Char.ofNat a.toNat), Text.hexValue? (Char.ofNat b.toNat) with
    | some x, some y => UInt8.ofNat (16 * x + y) :: decodeBytes rest
    | _, _ => 0x25 :: decodeBytes (a :: b :: rest)
  | b :: rest => b :: decodeBytes rest
  | [] => []

/-- The text with escapes resolved, if that is a text. -/
def decode? (text : String) : Option String :=
  Utf8.decode? (decodeBytes (Utf8.encode text))

/-- A key or a value of a form: a plus stands for a blank. -/
def decodeForm (cs : List Char) : String :=
  let spaced := String.ofList (cs.map fun c => if c = '+' then ' ' else c)
  String.ofList (Utf8.decodeLossy (decodeBytes (Utf8.encode spaced)))

end TangibleBlocks.Url
