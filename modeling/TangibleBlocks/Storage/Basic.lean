import TangibleBlocks.Storage.Path
import TangibleBlocks.Text.Utf8

/-!
Files and directories. A storage lists its places with what is found there; the
root is always a directory. A path is followed step by step, and every step but
the last has to lead to a directory. Names are texts, and the names in a directory
come in the order in which its entries happen to be listed.
-/

namespace TangibleBlocks

/-- Why something cannot be done with a storage. -/
inductive Storage.Fault where
  | notFound
  | notADirectory
  | isADirectory
  | alreadyExists
  | nameTooLong
  | zeroInPath
  | invalidText
  | denied
  | broken
  deriving DecidableEq, Inhabited

def Storage.Fault.message : Storage.Fault → String
  | notFound => "No such file or directory (os error 2)"
  | notADirectory => "Not a directory (os error 20)"
  | isADirectory => "Is a directory (os error 21)"
  | alreadyExists => "File exists (os error 17)"
  | nameTooLong => "File name too long (os error 36)"
  | zeroInPath => "file name contained an unexpected NUL byte"
  | invalidText => "stream did not contain valid UTF-8"
  | denied => "Permission denied (os error 13)"
  | broken => "Input/output error (os error 5)"

/-- What is found at a place. A sealed file can be neither read nor written, for whatever reason. -/
inductive Content where
  | directory
  | file (bytes : List UInt8)
  | sealed (fault : Storage.Fault)
  deriving DecidableEq, Inhabited

/-- Places below the root, and the place from which paths are taken. -/
structure Storage where
  places : List (List String × Content)
  here : List String
  deriving DecidableEq, Inhabited

namespace Storage

/-- What is found at a place. -/
def find? (s : Storage) (place : List String) : Option Content :=
  if place = [] then some .directory else s.places.lookup place

/-- Puts something at a place. -/
def put (s : Storage) (place : List String) (c : Content) : Storage :=
  { s with places := s.places.filter (fun p => p.1 != place) ++ [(place, c)] }

/-- One step on the way to a place, which has to begin at a directory. -/
def follow (s : Storage) (place : List String) (step : String) : Except Fault (List String) :=
  match s.find? place with
  | none => .error .notFound
  | some (.file _) => .error .notADirectory
  | some (.sealed _) => .error .notADirectory
  | some .directory =>
    if step = "" ∨ step = "." then .ok place
    else if step = ".." then .ok place.dropLast
    else if 255 < step.utf8ByteSize then .error .nameTooLong
    else .ok (place ++ [step])

/-- Where a path leads. Nothing needs to be there. -/
def locate (s : Storage) (path : String) : Except Fault (List String) :=
  if path.toList.contains (Char.ofNat 0) then .error .zeroInPath
  else if path = "" then .error .notFound
  else if 4096 ≤ path.utf8ByteSize then .error .nameTooLong
  else (Path.pieces path).foldlM s.follow (if Path.isRooted path then [] else s.here)

/-- What is found at a path. -/
def stat (s : Storage) (path : String) : Except Fault Content := do
  let place ← s.locate path
  match s.find? place with
  | none => .error .notFound
  | some c => .ok c

def isPresent (s : Storage) (path : String) : Bool :=
  match s.stat path with
  | .ok _ => true
  | .error _ => false

def isDirectory (s : Storage) (path : String) : Bool :=
  match s.stat path with
  | .ok .directory => true
  | _ => false

/-- The bytes of a file. -/
def read (s : Storage) (path : String) : Except Fault (List UInt8) := do
  match ← s.stat path with
  | .directory => .error .isADirectory
  | .file bytes => .ok bytes
  | .sealed f => .error f

/-- The text of a file. -/
def readText (s : Storage) (path : String) : Except Fault String := do
  match Utf8.decode? (← s.read path) with
  | none => .error .invalidText
  | some text => .ok text

/-- The names in a directory, in no particular order. -/
def names (s : Storage) (path : String) : Except Fault (List String) := do
  let place ← s.locate path
  match s.find? place with
  | none => .error .notFound
  | some (.file _) => .error .notADirectory
  | some (.sealed _) => .error .notADirectory
  | some .directory =>
    .ok <| s.places.filterMap fun p => if p.1.dropLast = place then p.1.getLast? else none

/-- Makes one directory. -/
def makeDirectory (s : Storage) (path : String) : Except Fault Storage := do
  let place ← s.locate path
  match s.find? place with
  | some _ => .error .alreadyExists
  | none => .ok (s.put place .directory)

/-- Makes the directory with the given steps, last step first, and those above it that are
missing. -/
def makeAll (s : Storage) (rooted : Bool) : List String → Except Fault Storage
  | [] => .ok s
  | step :: above =>
    let path := Path.ofSteps rooted (step :: above).reverse
    let make (s : Storage) : Except Fault Storage :=
      match s.makeDirectory path with
      | .ok made => .ok made
      | .error e => if s.isDirectory path then .ok s else .error e
    match s.makeDirectory path with
    | .error .notFound =>
      match makeAll s rooted above with
      | .ok s' => make s'
      | .error e => .error e
    | _ => make s

/-- Makes a directory and those above it that are missing. -/
def makeDirectories (s : Storage) (path : String) : Except Fault Storage :=
  s.makeAll (Path.isRooted path) (Path.steps path).reverse

/-- Writes a file, in place of the one that may be there. -/
def write (s : Storage) (path : String) (bytes : List UInt8) : Except Fault Storage := do
  let place ← s.locate path
  match s.find? place with
  | some .directory => .error .isADirectory
  | some (.sealed f) => .error f
  | _ => .ok (s.put place (.file bytes))

end Storage

end TangibleBlocks
