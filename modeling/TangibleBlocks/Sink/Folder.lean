import TangibleBlocks.Detection.Data
import TangibleBlocks.Detection.Tensor
import TangibleBlocks.Execution.Data
import TangibleBlocks.Journal
import TangibleBlocks.Json.Printer
import TangibleBlocks.Storage.Basic
import TangibleBlocks.Url.Basic

/-!
Results in files. Every result becomes a file of its own in a directory for the
day; its name tells the time of day and a running number, which also tells apart
what was written within one second. Empty detections are left out unless they
are asked for.
-/

namespace TangibleBlocks

structure Folder where
  directory : String
  /-- The number of the last file. -/
  counter : Nat
  always : Bool
  deriving DecidableEq, Inhabited

namespace Folder

inductive Fault where
  | schemeMismatch
  | storage (fault : Storage.Fault)
  deriving DecidableEq

def Fault.message : Fault → String
  | schemeMismatch => "URI 方案不匹配"
  | storage f => "I/O 错误: " ++ f.message

def scheme : String := "folder"

def ofUrl (u : Url) : Except Fault Folder :=
  if u.scheme = scheme then .ok ⟨u.filePath, 0, u.hasKey "always"⟩ else .error .schemeMismatch

/-- The two kinds of files. -/
inductive Kind where
  | detections
  | program
  deriving DecidableEq

def Kind.name : Kind → String
  | detections => "detections"
  | program => "program"

/-- The running number that follows; it is kept in two bytes. -/
def nextNumber (f : Folder) : Nat :=
  (f.counter + 1) % UInt16.size

/-- A running number in four hexadecimal digits. -/
def numberText (n : Nat) : String :=
  let ds := (Nat.toDigits 16 n).map Char.toUpper
  String.ofList (List.replicate (4 - ds.length) '0' ++ ds)

/-- The directory for a day. -/
def dayPath (f : Folder) (now : Timestamp) : String :=
  Path.join (Path.join (Path.join f.directory (toString now.year)) (padded 2 now.month))
    (padded 2 now.day)

def fileName (now : Timestamp) (number : Nat) (k : Kind) : String :=
  s!"{now.clockText}-{numberText number}-{k.name}.json"

/-- The path of the next file. -/
def filePath (f : Folder) (now : Timestamp) (k : Kind) : String :=
  Path.join (f.dayPath now) (fileName now f.nextNumber k)

/-- A folder and the storage it lies in. -/
structure Filed where
  folder : Folder
  storage : Storage

/-- Writes a file. Its number is used up once there is a directory for it, even if the writing
fails. -/
def write (f : Folder) (now : Timestamp) (k : Kind) (text : String) (s : Storage) :
    Filed × Option Fault :=
  let prepared :=
    if s.isPresent (f.dayPath now) then .ok s else s.makeDirectories (f.dayPath now)
  match prepared with
  | .error e => (⟨f, s⟩, some (.storage e))
  | .ok s' =>
    let counted := { f with counter := f.nextNumber }
    match s'.write (f.filePath now k) (Utf8.encode text) with
    | .error e => (⟨counted, s'⟩, some (.storage e))
    | .ok s'' => (⟨counted, s''⟩, none)

def detectionRecord (now : Timestamp) (anchors : Nat) (items : List Detection) : Json :=
  .object [("recorded_at", .string now.toText), ("num_anchors", .ofNat anchors),
    ("detections", Detection.resultToJson items)]

def programRecord (now : Timestamp) (p : Program) (r : Report) : Json :=
  .object [("recorded_at", .string now.toText), ("program", p.toJson), ("report", r.toJson)]

/-- Whether detections are left out. -/
def skips (f : Folder) (items : List Detection) : Bool :=
  !f.always && items.isEmpty

def addFrame (f : Folder) (now : Timestamp) (anchors : Nat) (items : List Detection)
    (s : Storage) : Filed × Option Fault :=
  if f.skips items then (⟨f, s⟩, none)
  else f.write now .detections (detectionRecord now anchors items).toPretty s

def addProgram (f : Folder) (now : Timestamp) (p : Program) (r : Report) (s : Storage) :
    Filed × Option Fault :=
  f.write now .program (programRecord now p r).toPretty s

/-- What is reported about a file that has been written. -/
def writtenNotes (f : Folder) (now : Timestamp) (k : Kind) (failure : Option Fault) :
    List Entry :=
  match failure with
  | none => [Origin.records.debug s!"记录已写入 {f.filePath now k}"]
  | some _ => []

def frameNotes (f : Folder) (now : Timestamp) (anchors : Nat) (items : List Detection)
    (s : Storage) : List Entry :=
  if f.skips items then []
  else f.writtenNotes now .detections (f.addFrame now anchors items s).2

def programNotes (f : Folder) (now : Timestamp) (p : Program) (r : Report) (s : Storage) :
    List Entry :=
  f.writtenNotes now .program (f.addProgram now p r s).2

end Folder

end TangibleBlocks
