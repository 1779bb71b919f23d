import Std.Time.DateTime.Timestamp
import TangibleBlocks.CommandLine.Tool

/-!
The programs. The name of the executable tells which of the tools it is. What a
tool needs of the disk is read before it runs, and what it has written is put
back afterwards; in between nothing but the library is at work.
-/

namespace TangibleBlocks.CommandLine

/-- A place on the disk. -/
def onDisk (path : String) :=
  (do return (← IO.currentDir).join path : IO _)

def readClock : IO Timestamp := do
  let n := (← Std.Time.Timestamp.now).toNanosecondsSinceUnixEpoch.val.toNat
  return .ofSeconds (n / 1000000000) (n % 1000000000)

/-- The place that a path leads to, by its steps alone. -/
def plainSteps (here : List String) (path : String) : List String :=
  let start := if Path.isRooted path then [] else here
  (Path.steps path).foldl
    (fun place step =>
      if step = "." then place else if step = ".." then place.dropLast else place ++ [step])
    start

/-- Why a file cannot be opened. -/
def faultOf : IO.Error → Storage.Fault
  | .permissionDenied .. => .denied
  | .noFileOrDirectory .. => .notFound
  | _ => .broken

/-- Takes over what the disk has at one place. The bytes of files are only read on request. -/
def loadPlace (bytes : Bool) (s : Storage) (place : List String) : IO Storage := do
  let path ← onDisk (Path.ofSteps true place)
  if ← path.isDir then return s.put place .directory
  else if ← path.pathExists then
    try
      let content ← if bytes then IO.FS.readBinFile path else pure .empty
      return s.put place (.file content.toList)
    catch e => return s.put place (.sealed (faultOf e))
  else return s

/-- Takes over a place and everything on the way to it. -/
def loadWay (s : Storage) (place : List String) : IO Storage :=
  (List.range' 1 place.length).foldlM (fun s n => loadPlace false s (place.take n)) s

/-- Takes over a file, or a directory with the files in it. -/
def loadSource (s : Storage) (place : List String) : IO Storage := do
  let s ← loadPlace true (← loadWay s place) place
  let path ← onDisk (Path.ofSteps true place)
  if ← path.isDir then
    (← path.readDir).foldlM (fun s e => loadPlace true s (place ++ [e.fileName])) s
  else return s

/-- What a tool needs of the disk. -/
def load (s : Settings) (input : Url) (now : Timestamp) : IO Storage := do
  let here := plainSteps [] (← IO.currentDir).toString
  let empty : Storage := ⟨[], here⟩
  let withSource ← loadSource (← loadWay empty here) (plainSteps here input.filePath)
  match Sink.ofUrl s.output with
  | .ok (.folder f) => loadWay withSource (plainSteps here (f.dayPath now))
  | _ => return withSource

/-- Puts what is new on the disk. -/
def save (before after : Storage) : IO Unit :=
  after.places.forM fun p => do
    unless before.places.contains p do
      let path ← onDisk (Path.ofSteps true p.1)
      match p.2 with
      | .directory => IO.FS.createDirAll path
      | .file bytes => IO.FS.writeBinFile path ⟨bytes.toArray⟩
      | .sealed _ => pure ()

def entryLine (now : Timestamp) (e : Entry) : String :=
  let space := if e.severity.name.length < 5 then " " else ""
  s!"{now.toText} {space}{e.severity.name} {e.origin.path}: {e.shown}"

def usage (t : Tool) : String :=
  let line (i : Item Settings) : String :=
    match i.form with
    | .flag => s!"      --{i.name}"
    | .single => s!"      --{i.name} <VALUE>"
    | .repeated => s!"      --{i.name} <VALUE>..."
  "\n".intercalate (s!"Usage: {t.name} [OPTIONS] --input <SOURCE>" :: t.items.map line)

/-- Runs a tool and returns its exit code. -/
def start (t : Tool) (s : Settings) (input : Url) : IO UInt32 := do
  let now ← readClock
  let storage ← load s input now
  let o := t.run s input ⟨storage, now, ⟨.zero, .zero⟩⟩
  o.notes.forM fun e => do
    if e.severity.isPublic then IO.println (entryLine now e)
  save storage o.storage
  IO.sleep (UInt32.ofNat (min o.pause.milliseconds (UInt32.size - 1)))
  match o.ending with
  | .done => pure ()
  | .failed message => IO.eprintln s!"Error: {message}"
  | .brokenOff message => IO.eprintln message
  return o.ending.code

def perform (t : Tool) (arguments : List String) : IO UInt32 := do
  match t.request arguments with
  | .help =>
    IO.println (usage t)
    return 0
  | .version =>
    IO.println s!"{t.name} 0.1.0"
    return 0
  | .misuse f =>
    IO.eprintln s!"error: {f.message}"
    return 2
  | .run (s, input) => start t s input

end TangibleBlocks.CommandLine

open TangibleBlocks.CommandLine in
/-- The program that the executable is named for. -/
def main (arguments : List String) : IO UInt32 := do
  let name := (← IO.appPath).fileName.getD ""
  perform ((Tool.ofName? name).getD .main) arguments
