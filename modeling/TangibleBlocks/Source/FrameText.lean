import TangibleBlocks.Json.Parser
import TangibleBlocks.Source.TensorFiles

/-!
Frames as JSON text: an array of numbers is one frame, and an array of such
arrays is one frame for each of them.
-/

namespace TangibleBlocks

structure FrameText where
  frames : List (List Binary32)
  shape : Shape
  deriving DecidableEq

namespace Json

def number? : Json → Option Binary32
  | number n => some n.toBinary32
  | _ => none

def numbers? : Json → Option (List Binary32)
  | array items => items.mapM number?
  | _ => none

/-- The frames that a value stands for. -/
def frames? (j : Json) : Option (List (List Binary32)) :=
  match j.numbers? with
  | some frame => some [frame]
  | none =>
    match j with
    | array items => items.mapM numbers?
    | _ => none

end Json

namespace FrameText

/-- Why a text holds no frames. -/
inductive TextFault where
  | syntaxError (fault : Json.SyntaxError)
  | noFrames
  deriving DecidableEq

def TextFault.message : TextFault → String
  | syntaxError f => f.message
  | noFrames => "data did not match any variant of untagged enum JsonFrames"

inductive Fault where
  | schemeMismatch
  | storage (fault : Storage.Fault)
  | text (fault : TextFault)
  | shape (fault : Shape.Fault)
  deriving DecidableEq

def Fault.message : Fault → String
  | schemeMismatch => "URI schema mismatch"
  | storage f => "I/O error: " ++ f.message
  | text f => "JSON error: " ++ f.message
  | shape f => "Shape error: " ++ f.message

def scheme : String := "json"

/-- The frames in a text. Whether the value has the right form is asked before what stands behind
it. -/
def framesOf (text : String) : Except TextFault (List (List Binary32)) :=
  let cs := text.toList
  match Json.readFirst cs with
  | .error f => .error (.syntaxError (.ofFailure cs f))
  | .ok (j, rest) =>
    match j.frames? with
    | none => .error .noFrames
    | some frames =>
      match Json.readEnd rest with
      | .error f => .error (.syntaxError (.ofFailure cs f))
      | .ok _ => .ok frames

def ofText (text : String) (shape : Shape) : Except TextFault FrameText :=
  (framesOf text).map fun frames => ⟨frames, shape⟩

def ofUrl (s : Storage) (u : Url) : Except Fault FrameText :=
  if u.scheme ≠ scheme then .error .schemeMismatch
  else
    match Shape.ofQuery u.queryPairs with
    | .error f => .error (.shape f)
    | .ok shape =>
      match s.readText u.filePath with
      | .error f => .error (.storage f)
      | .ok text => (ofText text shape).mapError .text

def ofUrlNotes (s : Storage) (u : Url) : List Entry :=
  TensorFiles.schemeNotes scheme .frameText u ++
    match ofUrl s u with
    | .ok t => [Origin.frameText.debug s!"JSON 张量帧数: {t.frames.length}"]
    | .error _ => []

def withClasses (t : FrameText) (n : Nat) : Except Shape.Fault FrameText :=
  (t.shape.withClasses n).map fun shape => { t with shape }

def tensors (t : FrameText) : List Tensor :=
  t.frames.map fun data => t.shape.tensor data.toArray

def feed (t : FrameText) : Feed :=
  .ofFrames t.tensors

end FrameText

end TangibleBlocks
