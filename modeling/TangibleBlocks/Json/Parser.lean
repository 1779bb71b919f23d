import TangibleBlocks.Json.Basic
import TangibleBlocks.Text.Hexadecimal

/-!
Reading JSON text. A text is one value with blanks around it; arrays and objects
may be nested up to 127 levels deep. An error says what was expected and where
the text went wrong.
-/

namespace TangibleBlocks.Json

inductive Fault where
  | endInList
  | endInObject
  | endInString
  | endInValue
  | expectedColon
  | expectedListEnd
  | expectedObjectEnd
  | expectedWord
  | expectedValue
  | invalidEscape
  | invalidNumber
  | numberOutOfRange
  | controlCharacter
  | keyMustBeString
  | loneSurrogate
  | brokenSurrogate
  | trailingComma
  | trailingCharacters
  | tooDeep
  deriving DecidableEq

namespace Fault

/-- Whether the text merely ends too early. -/
def isEnd : Fault → Bool
  | endInList | endInObject | endInString | endInValue => true
  | _ => false

def message : Fault → String
  | endInList => "EOF while parsing a list"
  | endInObject => "EOF while parsing an object"
  | endInString => "EOF while parsing a string"
  | endInValue => "EOF while parsing a value"
  | expectedColon => "expected `:`"
  | expectedListEnd => "expected `,` or `]`"
  | expectedObjectEnd => "expected `,` or `\x7d`"
  | expectedWord => "expected ident"
  | expectedValue => "expected value"
  | invalidEscape => "invalid escape"
  | invalidNumber => "invalid number"
  | numberOutOfRange => "number out of range"
  | controlCharacter => "control character (\\u0000-\\u001F) found while parsing a string"
  | keyMustBeString => "key must be a string"
  | loneSurrogate => "lone leading surrogate in hex escape"
  | brokenSurrogate => "unexpected end of hex escape"
  | trailingComma => "trailing comma"
  | trailingCharacters => "trailing characters"
  | tooDeep => "recursion limit exceeded"

end Fault

/-- A fault, and how many characters of the text stand behind it. -/
structure Failure where
  fault : Fault
  left : Nat
  deriving DecidableEq

/-- A fault in front of the next character. -/
def failAt {α : Type} (fault : Fault) (rest : List Char) : Except Failure α :=
  .error ⟨fault, rest.length⟩

/-- A fault at the next character. -/
def failOn {α : Type} (fault : Fault) (rest : List Char) : Except Failure α :=
  .error ⟨fault, rest.length - 1⟩

def isSpace (c : Char) : Bool :=
  c == ' ' || c == '\n' || c == '\t' || c == '\r'

def skip (cs : List Char) : List Char :=
  cs.dropWhile isSpace

/-- The rest of a word whose first letter has been read. -/
def readWord : List Char → List Char → Except Failure (List Char)
  | [], cs => .ok cs
  | _ :: _, [] => failAt .endInValue []
  | w :: ws, c :: cs => if c = w then readWord ws cs else failAt .expectedWord cs

/-! ### Numbers -/

/-- The largest significand that is kept exactly. -/
def largestWord : Nat :=
  UInt64.size - 1

/-- Reads digits into the significand for as long as it stays within a word. The count of digits
read goes with it. -/
def readSignificand : Nat → Nat → List Char → Nat × Nat × List Char
  | sig, count, c :: cs =>
    if c.isDigit ∧ sig * 10 + (c.toNat - 48) ≤ largestWord then
      readSignificand (sig * 10 + (c.toNat - 48)) (count + 1) cs
    else (sig, count, c :: cs)
  | sig, count, [] => (sig, count, [])

def startsWithDigit : List Char → Bool
  | c :: _ => c.isDigit
  | [] => false

/-- A decimal whose value has to be within range. -/
def finishDecimal (negative : Bool) (sig : Nat) (exponent : Int) (cs : List Char) :
    Except Failure (Number × List Char) :=
  match real? negative sig exponent with
  | some _ => .ok (.decimal negative sig exponent, cs)
  | none => failAt .numberOutOfRange cs

/-- The exponent behind its letter. -/
def readExponent (negative : Bool) (sig : Nat) (exponent : Int) (cs : List Char) :
    Except Failure (Number × List Char) :=
  let (down, body) :=
    match cs with
    | '+' :: rest => (false, rest)
    | '-' :: rest => (true, rest)
    | _ => (false, cs)
  match body with
  | [] => failAt .endInValue []
  | c :: rest =>
    if c.isDigit then
      let digits := body.takeWhile Char.isDigit
      let value : Int := digits.foldl (fun n d => n * 10 + (d.toNat - 48)) 0
      finishDecimal negative sig (if down then exponent - value else exponent + value)
        (body.dropWhile Char.isDigit)
    else failAt .invalidNumber rest

def finishNumber (negative : Bool) (sig : Nat) (exponent : Int) (cs : List Char) :
    Except Failure (Number × List Char) :=
  match cs with
  | c :: rest =>
    if c = 'e' ∨ c = 'E' then readExponent negative sig exponent rest
    else finishDecimal negative sig exponent cs
  | [] => finishDecimal negative sig exponent cs

/-- The places behind the point. Those that do not fit the significand are passed over. -/
def readPlaces (negative : Bool) (sig : Nat) (exponent : Int) (cs : List Char) :
    Except Failure (Number × List Char) :=
  let (sig', count, rest) := readSignificand sig 0 cs
  if startsWithDigit rest then
    finishNumber negative sig' (exponent - count) (rest.dropWhile Char.isDigit)
  else if count = 0 then
    match rest with
    | [] => failAt .endInValue []
    | _ => failOn .invalidNumber rest
  else finishNumber negative sig' (exponent - count) rest

/-- A number behind its sign. -/
def readNumber (negative : Bool) (cs : List Char) : Except Failure (Number × List Char) :=
  match cs with
  | [] => failAt .endInValue []
  | c :: rest =>
    if !c.isDigit then failAt .invalidNumber rest
    else if c = '0' ∧ startsWithDigit rest then failOn .invalidNumber rest
    else
      let (sig, _, behind) := if c = '0' then (0, 1, rest) else readSignificand 0 0 cs
      let dropped := behind.takeWhile Char.isDigit
      match behind.dropWhile Char.isDigit with
      | '.' :: places => readPlaces negative sig dropped.length places
      | 'e' :: tail => readExponent negative sig dropped.length tail
      | 'E' :: tail => readExponent negative sig dropped.length tail
      | tail =>
        if dropped ≠ [] then finishDecimal negative sig dropped.length tail
        else if !negative then .ok (.integer sig, tail)
        else if sig = 0 ∨ 0x8000000000000000 < sig then .ok (.decimal true sig 0, tail)
        else .ok (.integer (-sig), tail)

/-! ### Strings -/

/-- How many bytes characters take. -/
def byteCount (cs : List Char) : Nat :=
  cs.foldr (fun c n => c.utf8Size + n) 0

/-- Four hexadecimal digits. A text that is too short for them is one of fewer than four bytes. -/
def readHex (cs : List Char) : Except Failure (Nat × List Char) :=
  match cs with
  | a :: b :: c :: d :: rest =>
    match Text.hexValue? a, Text.hexValue? b, Text.hexValue? c, Text.hexValue? d with
    | some a, some b, some c, some d => .ok (((a * 16 + b) * 16 + c) * 16 + d, rest)
    | _, _, _, _ => failAt .invalidEscape rest
  | _ =>
    if byteCount cs < 4 then failAt .endInString [] else failAt .invalidEscape []

/-- The character behind `\u`; one beyond the first plane takes a pair of escapes. -/
def readUnicode (cs : List Char) : Except Failure (Char × List Char) := do
  let (n, rest) ← readHex cs
  if 0xDC00 ≤ n ∧ n ≤ 0xDFFF then failAt .loneSurrogate rest
  else if n < 0xD800 ∨ 0xDBFF < n then .ok (Char.ofNat n, rest)
  else
    match rest with
    | [] => failAt .endInString []
    | '\\' :: [] => failAt .endInString []
    | '\\' :: 'u' :: more =>
      let (m, tail) ← readHex more
      if m < 0xDC00 ∨ 0xDFFF < m then failAt .loneSurrogate tail
      else .ok (Char.ofNat ((n - 0xD800) * 1024 + (m - 0xDC00) + 0x10000), tail)
    | '\\' :: _ :: more => failAt .brokenSurrogate more
    | _ :: more => failAt .brokenSurrogate more

/-- A character behind a backslash. -/
def readEscape : List Char → Except Failure (Char × List Char)
  | [] => failAt .endInString []
  | c :: rest =>
    if c = '"' ∨ c = '\\' ∨ c = '/' then .ok (c, rest)
    else if c = 'b' then .ok (Char.ofNat 8, rest)
    else if c = 'f' then .ok (Char.ofNat 12, rest)
    else if c = 'n' then .ok ('\n', rest)
    else if c = 'r' then .ok ('\r', rest)
    else if c = 't' then .ok ('\t', rest)
    else if c = 'u' then readUnicode rest
    else failAt .invalidEscape rest

/-- A string behind its opening mark. -/
def readString : Nat → List Char → List Char → Except Failure (String × List Char)
  | 0, _, cs => failAt .endInString cs
  | _, _, [] => failAt .endInString []
  | fuel + 1, acc, c :: cs =>
    if c = '"' then .ok (String.ofList acc.reverse, cs)
    else if c = '\\' then
      match readEscape cs with
      | .ok (d, rest) => readString fuel (d :: acc) rest
      | .error e => .error e
    else if c.toNat < 32 then failAt .controlCharacter cs
    else readString fuel (c :: acc) cs

/-! ### Values -/

mutual

/-- A value. `depth` is how many levels may still be opened; the fuel is larger than twice the
length of the text. -/
def readValue : Nat → Nat → List Char → Except Failure (Json × List Char)
  | 0, _, cs => failOn .expectedValue cs
  | fuel + 1, depth, cs =>
    match skip cs with
    | [] => failOn .endInValue []
    | '"' :: rest => do
      let (s, tail) ← readString fuel [] rest
      .ok (.string s, tail)
    | '[' :: rest => do
      if depth ≤ 1 then failAt .tooDeep rest
      else
        match skip rest with
        | ']' :: tail => .ok (.array [], tail)
        | [] => failOn .endInList []
        | _ =>
          let (items, tail) ← readItems fuel (depth - 1) [] rest
          .ok (.array items, tail)
    | '\x7b' :: rest => do
      if depth ≤ 1 then failAt .tooDeep rest
      else
        match skip rest with
        | '\x7d' :: tail => .ok (.object [], tail)
        | [] => failOn .endInObject []
        | '"' :: tail =>
          let (members, tail) ← readMembers fuel (depth - 1) [] tail
          .ok (.object members, tail)
        | other => failOn .keyMustBeString other
    | 'n' :: rest => do
      let tail ← readWord ['u', 'l', 'l'] rest
      .ok (.null, tail)
    | 't' :: rest => do
      let tail ← readWord ['r', 'u', 'e'] rest
      .ok (.bool true, tail)
    | 'f' :: rest => do
      let tail ← readWord ['a', 'l', 's', 'e'] rest
      .ok (.bool false, tail)
    | '-' :: rest => do
      let (n, tail) ← readNumber true rest
      .ok (.number n, tail)
    | c :: rest =>
      if c.isDigit then do
        let (n, tail) ← readNumber false (c :: rest)
        .ok (.number n, tail)
      else failOn .expectedValue (c :: rest)

/-- The items of an array that has at least one, and the closing bracket. The items read so far
are kept in reverse. -/
def readItems : Nat → Nat → List Json → List Char → Except Failure (List Json × List Char)
  | 0, _, _, cs => failOn .expectedValue cs
  | fuel + 1, depth, done, cs =>
    match readValue fuel depth cs with
    | .error e => .error e
    | .ok (item, rest) =>
      match skip rest with
      | ']' :: tail => .ok ((item :: done).reverse, tail)
      | ',' :: tail =>
        match skip tail with
        | ']' :: behind => failOn .trailingComma (']' :: behind)
        | _ => readItems fuel depth (item :: done) tail
      | [] => failOn .endInList []
      | other => failOn .expectedListEnd other

/-- The members of an object behind the mark that opens the first key, and the closing brace. -/
def readMembers :
    Nat → Nat → List (String × Json) → List Char →
      Except Failure (List (String × Json) × List Char)
  | 0, _, _, cs => failOn .expectedValue cs
  | fuel + 1, depth, done, cs =>
    match readString fuel [] cs with
    | .error e => .error e
    | .ok (key, rest) =>
      match skip rest with
      | ':' :: tail =>
        match readValue fuel depth tail with
        | .error e => .error e
        | .ok (item, behind) =>
          match skip behind with
          | '\x7d' :: final => .ok (((key, item) :: done).reverse, final)
          | ',' :: more =>
            match skip more with
            | '"' :: next => readMembers fuel depth ((key, item) :: done) next
            | [] => failOn .endInValue []
            | '\x7d' :: final => failOn .trailingComma ('\x7d' :: final)
            | other => failOn .keyMustBeString other
          | [] => failOn .endInObject []
          | other => failOn .expectedObjectEnd other
      | [] => failOn .endInObject []
      | other => failOn .expectedColon other

end

/-- The value at the beginning of a text, and what stands behind it. -/
def readFirst (cs : List Char) : Except Failure (Json × List Char) :=
  readValue (2 * cs.length + 2) 128 cs

/-- Nothing but blanks may stand behind the value. -/
def readEnd (cs : List Char) : Except Failure Unit :=
  match skip cs with
  | [] => .ok ()
  | other => failOn .trailingCharacters other

/-- The value that a text stands for. -/
def readText (cs : List Char) : Except Failure Json :=
  match readFirst cs with
  | .error e => .error e
  | .ok (j, rest) => (readEnd rest).map fun _ => j

/-- A fault with its line and its column, which counts bytes. -/
structure SyntaxError where
  fault : Fault
  line : Nat
  column : Nat
  deriving DecidableEq

namespace SyntaxError

def ofFailure (cs : List Char) (f : Failure) : SyntaxError :=
  let passed := cs.take (cs.length - f.left)
  let current := (passed.reverse.takeWhile (· ≠ '\n'))
  ⟨f.fault, passed.count '\n' + 1, byteCount current⟩

def message (e : SyntaxError) : String :=
  s!"{e.fault.message} at line {e.line} column {e.column}"

end SyntaxError

def parse (text : String) : Except SyntaxError Json :=
  let cs := text.toList
  (readText cs).mapError (SyntaxError.ofFailure cs)

end TangibleBlocks.Json
