import TangibleBlocks.Url.Name.Basic
import TangibleBlocks.Url.Percent

/-!
Hosts. The well-known schemes name a domain or a numeric address; other schemes
name whatever they like, apart from a few characters that are never allowed.
Numeric addresses between brackets are written in their shortest form.
-/

namespace TangibleBlocks.Url

/-- Why a text is no address. -/
inductive Fault where
  | noBase
  | emptyHost
  | invalidName
  | invalidPort
  | invalidNumericAddress
  | invalidBracketedAddress
  | invalidHostCharacter
  deriving DecidableEq

def Fault.message : Fault → String
  | noBase => "relative URL without a base"
  | emptyHost => "empty host"
  | invalidName => "invalid international domain name"
  | invalidPort => "invalid port number"
  | invalidNumericAddress => "invalid IPv4 address"
  | invalidBracketedAddress => "invalid IPv6 address"
  | invalidHostCharacter => "invalid domain character"

/-! ### Numeric addresses -/

def isDecimal (cs : List Char) : Bool :=
  !cs.isEmpty && cs.all Char.isDigit

def digitsIn? (base : Nat) (cs : List Char) : Option Nat :=
  cs.foldlM (fun n c => ((Text.hexValue? c).filter (· < base)).map fun d => n * base + d) 0

/-- One part of a numeric address: hexadecimal, octal or decimal. -/
def numberPart? (cs : List Char) : Option Nat :=
  match cs with
  | [] => none
  | ['0'] => some 0
  | '0' :: 'x' :: rest => digitsIn? 16 rest
  | '0' :: 'X' :: rest => digitsIn? 16 rest
  | '0' :: rest => digitsIn? 8 rest
  | _ => digitsIn? 10 cs

/-- Whether a domain has to be a numeric address, since its last part is a number. -/
def endsInNumber (domain : List Char) : Bool :=
  let last? : Option (List Char) :=
    match (Text.pieces '.' domain).reverse with
    | [] :: last :: _ => some last
    | [] :: [] => none
    | last :: _ => some last
    | [] => none
  match last? with
  | none => false
  | some last => isDecimal last || (numberPart? last).isSome

/-- The value of a numeric address: the last part fills the bytes that the others leave. -/
def numericAddress? (domain : List Char) : Option Nat :=
  let parts := Text.pieces '.' domain
  let parts := if parts.getLast? = some [] then parts.dropLast else parts
  if 4 < parts.length then none
  else
    (parts.mapM numberPart?).bind fun numbers =>
      match numbers.reverse with
      | [] => none
      | last :: _ =>
        let front := numbers.dropLast
        if Nat.pow 256 (4 - front.length) ≤ last || front.any (255 < ·) then none
        else
          let high := (front.zipIdx).foldl (fun n p => n + p.1 * Nat.pow 256 (3 - p.2)) 0
          some (high + last)

def numericText (n : Nat) : String :=
  s!"{n >>> 24 % 256}.{n >>> 16 % 256}.{n >>> 8 % 256}.{n % 256}"

/-! ### Addresses between brackets -/

/-- A group of up to four hexadecimal digits. -/
def group? (cs : List Char) : Option (List Nat) :=
  if cs.isEmpty || 4 < cs.length then none else (digitsIn? 16 cs).map fun n => [n]

/-- A byte in decimal, without needless zeros. -/
def byte? (cs : List Char) : Option Nat :=
  if isDecimal cs && (cs.head? != some '0' || cs.length == 1) then
    (digitsIn? 10 cs).filter (· < 256)
  else none

/-- Four bytes with dots between them, as two groups. -/
def dottedGroups? (cs : List Char) : Option (List Nat) :=
  match (Text.pieces '.' cs).mapM byte? with
  | some [a, b, c, d] => some [a * 256 + b, c * 256 + d]
  | _ => none

/-- The groups of a side of an address. The very last one may be written with dots. -/
def groups? (dotted : Bool) (cs : List Char) : Option (List Nat) :=
  if cs.isEmpty then some []
  else
    let parts := Text.pieces ':' cs
    let last := (parts.getLast?.map fun p => if dotted && p.contains '.' then dottedGroups? p
      else group? p).join
    match parts.dropLast.mapM group?, last with
    | some front, some back => some (front.flatten ++ back)
    | _, _ => none

/-- What stands before and after the first double colon. -/
def splitDouble? : List Char → Option (List Char × List Char)
  | ':' :: ':' :: rest => some ([], rest)
  | c :: rest => (splitDouble? rest).map fun p => (c :: p.1, p.2)
  | [] => none

/-- The eight groups of an address. A double colon stands for at least one group of zeros. -/
def bracketed? (cs : List Char) : Option (List Nat) :=
  match splitDouble? cs with
  | none => (groups? true cs).filter fun g => g.length == 8
  | some (before, after) =>
    match groups? false before, groups? true after with
    | some front, some back =>
      if 7 < front.length + back.length then none
      else some (front ++ List.replicate (8 - front.length - back.length) 0 ++ back)
    | _, _ => none

/-- The number of zeros that each place of a list begins. -/
def zeroRuns : List Nat → List Nat
  | [] => []
  | 0 :: rest =>
    match zeroRuns rest with
    | [] => [1]
    | n :: ns => (n + 1) :: n :: ns
  | _ :: rest => 0 :: zeroRuns rest

def bracketedText (groups : List Nat) : String :=
  let runs := zeroRuns groups
  let longest := runs.foldl max 0
  let text (gs : List Nat) : String := ":".intercalate (gs.map Text.hexText)
  if longest < 2 then "[" ++ text groups ++ "]"
  else
    let start := runs.findIdx (· == longest)
    "[" ++ text (groups.take start) ++ "::" ++ text (groups.drop (start + longest)) ++ "]"

def bracketedHost (cs : List Char) : Except Fault String :=
  if cs.getLast? ≠ some ']' then .error .invalidBracketedAddress
  else
    match bracketed? cs.dropLast with
    | none => .error .invalidBracketedAddress
    | some groups => .ok (bracketedText groups)

/-! ### Names -/

def isForbiddenInHost (c : Char) : Bool :=
  c.toNat == 0 ||
    ['\t', '\n', '\r', ' ', '#', '/', ':', '<', '>', '?', '@', '[', '\\', ']', '^', '|'].contains c

def isForbiddenInName (c : Char) : Bool :=
  isForbiddenInHost c || c.toNat < 32 || c.toNat == 127 || c == '%'

/-- The host of a scheme that is not well known. -/
def anyHost (cs : List Char) : Except Fault String :=
  match cs with
  | '[' :: rest => bracketedHost rest
  | _ =>
    if cs.any isForbiddenInHost then .error .invalidHostCharacter
    else .ok (String.ofList (encode markedNowhere cs))

/-- The host of a well-known scheme: a name in basic characters, or a numeric address. -/
def domainHost (cs : List Char) : Except Fault String :=
  match cs with
  | '[' :: rest => bracketedHost rest
  | _ =>
    match Name.basic? (Utf8.decodeLossy (decodeBytes (Utf8.encode (String.ofList cs)))) with
    | none => .error .invalidName
    | some name =>
      if name.any isForbiddenInName then .error .invalidName
      else if name.isEmpty then .error .emptyHost
      else if endsInNumber name then
        match numericAddress? name with
        | none => .error .invalidNumericAddress
        | some n => .ok (numericText n)
      else .ok (String.ofList name)

end TangibleBlocks.Url
