import TangibleBlocks.Number.Numeral
import TangibleBlocks.Url.Basic
import TangibleBlocks.Url.Segments

/-!
Reading addresses. Only absolute addresses are read. Blanks at the ends are
dropped, and so are tabs and line breaks everywhere; only in the paths of files
do these part a drive from what stands behind it.
-/

namespace TangibleBlocks.Url

def isWellKnown (scheme : String) : Bool :=
  ["http", "https", "ws", "wss", "ftp", "file"].contains scheme

def usualPort? (scheme : String) : Option Nat :=
  if scheme = "http" ∨ scheme = "ws" then some 80
  else if scheme = "https" ∨ scheme = "wss" then some 443
  else if scheme = "ftp" then some 21
  else none

/-- What stands between the blanks and control characters at the ends. -/
def inner (cs : List Char) : List Char :=
  let isEdge (c : Char) : Bool := decide (c.toNat ≤ 32)
  ((cs.dropWhile isEdge).reverse.dropWhile isEdge).reverse

def isSchemeCharacter (c : Char) : Bool :=
  c.isAlphanum || c == '+' || c == '-' || c == '.'

/-- The scheme and what stands behind its colon. -/
def splitScheme? (cs : List Char) : Option (String × List Char) :=
  match Text.splitAt? ':' cs with
  | none => none
  | some (before, behind) =>
    match withoutGaps before with
    | c :: rest =>
      if c.isAlpha = true ∧ rest.all isSchemeCharacter = true then
        some (String.ofList ((c :: rest).map Char.toLower), behind)
      else none
    | [] => none

/-- Whether a character ends the authority. -/
def endsAuthority (wellKnown : Bool) (c : Char) : Bool :=
  c == '/' || c == '?' || c == '#' || (wellKnown && c == '\\')

/-- What stands before and after the last at sign. -/
def splitCredentials? (cs : List Char) : Option (List Char × List Char) :=
  (Text.splitAt? '@' cs.reverse).map fun p => (p.2.reverse, p.1.reverse)

/-- Name and password; an empty password is left out. -/
def credentialsText (cs : List Char) : Option String :=
  let name := cs.takeWhile (· ≠ ':')
  let password := (cs.dropWhile (· ≠ ':')).drop 1
  let text := encode markedInCredentials name ++
    if password = [] then [] else ':' :: encode markedInCredentials password
  if text = [] then none else some (String.ofList text)

/-- What stands before the colon of the port. Colons between brackets belong to the host. -/
def splitHost : Bool → List Char → List Char × List Char
  | _, [] => ([], [])
  | inside, c :: rest =>
    if c = ':' ∧ inside = false then ([], c :: rest)
    else
      let p := splitHost (if c = '[' then true else if c = ']' then false else inside) rest
      (c :: p.1, p.2)

/-- The port behind its colon and what stands behind the port. -/
def readPort (cs : List Char) : Except Fault (Option Nat × List Char) :=
  let digits := cs.takeWhile Char.isDigit
  let rest := cs.dropWhile Char.isDigit
  if 65535 < digitsValue digits then .error .invalidPort
  else
    match rest with
    | [] => .ok (if digits = [] then none else some (digitsValue digits), [])
    | c :: _ =>
      if c = '/' ∨ c = '\\' ∨ c = '?' ∨ c = '#' then
        .ok (if digits = [] then none else some (digitsValue digits), rest)
      else .error .invalidPort

/-- The authority behind its two slashes and what stands behind it. -/
def readAuthority (scheme : String) (cs : List Char) :
    Except Fault (Authority × List Char) := do
  let wellKnown := isWellKnown scheme
  let inside := cs.takeWhile fun c => !endsAuthority wellKnown c
  let behind := cs.dropWhile fun c => !endsAuthority wellKnown c
  let (credentials, hostAndPort) := (splitCredentials? inside).getD ([], inside)
  if inside ≠ hostAndPort ∧ credentials = [] ∧ hostAndPort = [] ∧ behind ≠ [] then
    .error .emptyHost
  let (host, afterHost) := splitHost false hostAndPort
  if host = [] ∧ wellKnown = true then .error .emptyHost
  let host ← if wellKnown then domainHost host else anyHost host
  if host = "" ∧ afterHost ≠ [] then .error .emptyHost
  let (port, rest) ←
    match afterHost with
    | ':' :: digits => readPort (digits ++ behind)
    | _ => .ok (none, behind)
  let credentials := credentialsText credentials
  if host = "" ∧ credentials.isSome = true then .error .emptyHost
  .ok (⟨credentials, host, port.filter fun n => usualPort? scheme != some n⟩, rest)

/-- Path, query and fragment, each with the mark that precedes it. -/
def splitTail (cs : List Char) : List Char × Option (List Char) × Option (List Char) :=
  let isMark (c : Char) : Bool := c == '?' || c == '#'
  let path := cs.takeWhile fun c => !isMark c
  match cs.dropWhile fun c => !isMark c with
  | '?' :: rest =>
    (path, some (rest.takeWhile (· ≠ '#')),
      match rest.dropWhile (· ≠ '#') with
      | _ :: fragment => some fragment
      | [] => none)
  | _ :: fragment => (path, none, some fragment)
  | [] => (path, none, none)

/-- The path behind an authority. The well-known schemes always have one. -/
def pathBehindAuthority (wellKnown : Bool) (cs : List Char) : List Char :=
  match cs with
  | [] => if wellKnown then ['/'] else []
  | c :: rest =>
    if c = '/' ∨ (wellKnown = true ∧ c = '\\') then normalPath wellKnown rest
    else normalPath wellKnown cs

/-- The path of a scheme that is not well known and has no authority. -/
def pathAlone (cs : List Char) : List Char :=
  match cs with
  | '/' :: rest => normalPath false rest
  | _ => encode markedNowhere cs

def assemble (scheme : String) (authority : Option Authority) (path : List Char)
    (query fragment : Option (List Char)) : Url :=
  ⟨scheme, authority, String.ofList path,
    query.map fun q => String.ofList (encode (markedInQuery (isWellKnown scheme)) q),
    fragment.map fun f => String.ofList (encode markedInFragment f)⟩

/-! ### Files -/

/-- What stands behind the slash or backslash that begins a text. -/
def dropSlash? (cs : List Char) : Option (List Char) :=
  match cs.dropWhile isGap with
  | [] => none
  | c :: rest => if c = '/' ∨ c = '\\' then some rest else none

/-- The host of a file and its path, query and fragment. A file on this machine has no host, and
neither has one on a drive. Slashes in front of the path count once. -/
def fileBehind (host : String) (cs : List Char) : Url :=
  let (raw, query, fragment) := splitTail cs
  let path := segments true true raw
  let onDrive := (path.head?.map Segment.isDrive).getD false
  assemble "file" (some ⟨none, if onDrive then "" else host, none⟩)
    ('/' :: (pathText path).dropWhile (· == '/')) (query.map withoutGaps)
    (fragment.map withoutGaps)

/-- An address of a file. Two slashes precede its host, which is usually empty. -/
def readFile (cs : List Char) : Except Fault Url :=
  match (dropSlash? cs).bind dropSlash? with
  | none => .ok (fileBehind "" ((dropSlash? cs).getD cs))
  | some rest =>
    let inside := withoutGaps (rest.takeWhile fun c => !endsAuthority true c)
    let behind := rest.dropWhile fun c => !endsAuthority true c
    if isDrive inside then .ok (fileBehind "" rest)
    else if inside = [] then .ok (fileBehind "" behind)
    else do
      let host ← domainHost inside
      if host = "localhost" then .ok (fileBehind "" behind)
      else .ok (fileBehind host ((dropSlash? behind).getD behind))

/-- The address that a text stands for. -/
def parse (text : String) : Except Fault Url :=
  match splitScheme? (inner text.toList) with
  | none => .error .noBase
  | some (scheme, behind) =>
    let rest := withoutGaps behind
    if scheme = "file" then readFile behind
    else if isWellKnown scheme then do
      let (authority, tail) ←
        readAuthority scheme (rest.dropWhile fun c => c == '/' || c == '\\')
      let (path, query, fragment) := splitTail tail
      .ok (assemble scheme (some authority) (pathBehindAuthority true path) query fragment)
    else
      match rest with
      | '/' :: '/' :: behind => do
        let (authority, tail) ← readAuthority scheme behind
        let (path, query, fragment) := splitTail tail
        .ok (assemble scheme (some authority) (pathBehindAuthority false path) query fragment)
      | _ =>
        let (path, query, fragment) := splitTail rest
        .ok (assemble scheme none (pathAlone path) query fragment)

end TangibleBlocks.Url
