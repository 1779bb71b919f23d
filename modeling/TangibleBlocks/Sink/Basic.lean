import TangibleBlocks.Session.Display
import TangibleBlocks.Sink.Folder
import TangibleBlocks.Sink.Log

/-!
Where results go. The scheme of an address tells which kind of sink it names. A
sink is a display whose state includes the storage that it writes to.
-/

namespace TangibleBlocks

inductive Sink where
  | log (l : LogSink)
  | folder (f : Folder)
  deriving DecidableEq

namespace Sink

inductive Fault where
  | folder (fault : Folder.Fault)
  | schemeMismatch
  deriving DecidableEq

def Fault.message : Fault → String
  | folder f => "目录记录输出错误: " ++ f.message
  | schemeMismatch => "URI 方案不匹配"

def ofUrl (u : Url) : Except Fault Sink :=
  if u.scheme = LogSink.scheme then
    match LogSink.ofUrl? u with
    | some l => .ok (.log l)
    | none => .error .schemeMismatch
  else if u.scheme = Folder.scheme then ((Folder.ofUrl u).map folder).mapError .folder
  else .error .schemeMismatch

/-- A sink and the storage that it writes to. -/
structure Outlet where
  sink : Sink
  storage : Storage

namespace Outlet

/-- A folder has been written to. -/
def reply (r : Folder.Filed × Option Folder.Fault) : Reply Outlet Fault :=
  let outlet : Outlet := ⟨.folder r.1.folder, r.1.storage⟩
  match r.2 with
  | none => .ok outlet
  | some e => .failed outlet (.folder e)

def showFrame (now : Timestamp) (o : Outlet) (t : Tensor) (items : List Detection) :
    Reply Outlet Fault :=
  match o.sink with
  | .log _ => .ok o
  | .folder f => reply (f.addFrame now t.anchors items o.storage)

def showProgram (now : Timestamp) (o : Outlet) (p : Program) (r : Report) : Reply Outlet Fault :=
  match o.sink with
  | .log _ => .ok o
  | .folder f => reply (f.addProgram now p r o.storage)

def display (now : Timestamp) : Display Outlet Fault :=
  ⟨showFrame now, showProgram now⟩

def frameNotes (now : Timestamp) (o : Outlet) (t : Tensor) (items : List Detection) :
    List Entry :=
  match o.sink with
  | .log l => l.frameNotes t.anchors items
  | .folder f => f.frameNotes now t.anchors items o.storage

def programNotes (now : Timestamp) (o : Outlet) (p : Program) (r : Report) : List Entry :=
  match o.sink with
  | .log l => l.programNotes p r
  | .folder f => f.programNotes now p r o.storage

end Outlet

end Sink

end TangibleBlocks
