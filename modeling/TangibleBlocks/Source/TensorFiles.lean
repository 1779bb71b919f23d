import TangibleBlocks.Session.Notes
import TangibleBlocks.Source.Shape
import TangibleBlocks.Storage.Basic
import TangibleBlocks.Url.Basic

/-!
Tensors in files: single precision numbers, least significant byte first. A
directory stands for all files in it that have the right extension, in the order
of their names; files that cannot be read are passed over.
-/

namespace TangibleBlocks

/-- Files to be read, and the shape of what is in them. -/
structure TensorFiles where
  files : List String
  shape : Shape
  deriving DecidableEq

namespace TensorFiles

inductive Fault where
  | schemeMismatch
  | storage (fault : Storage.Fault)
  | shape (fault : Shape.Fault)
  | noTensorFile (path : String)
  deriving DecidableEq

def Fault.message : Fault → String
  | schemeMismatch => "URI schema mismatch"
  | storage f => "I/O error: " ++ f.message
  | shape f => "Shape error: " ++ f.message
  | noTensorFile p => "No tensor file found in " ++ p

def scheme : String := "tensor"

def extension : String := "bin"

/-- The files that a path stands for. -/
def filesAt (s : Storage) (path : String) : Except Fault (List String) :=
  if s.isDirectory path then
    match s.names path with
    | .error f => .error (.storage f)
    | .ok names =>
      let found := names.filter fun n => Path.extension? n == some extension
      match found.mergeSort fun a b => decide (a ≤ b) with
      | [] => .error (.noTensorFile path)
      | found => .ok (found.map (Path.join path))
  else
    match s.stat path with
    | .error f => .error (.storage f)
    | .ok _ => .ok [path]

def ofUrl (s : Storage) (u : Url) : Except Fault TensorFiles :=
  if u.scheme ≠ scheme then .error .schemeMismatch
  else
    match Shape.ofQuery u.queryPairs with
    | .error f => .error (.shape f)
    | .ok shape => (filesAt s u.filePath).map fun files => ⟨files, shape⟩

/-- What is reported when an address with another scheme is refused. -/
def schemeNotes (expected : String) (origin : Origin) (u : Url) : List Entry :=
  if u.scheme ≠ expected then
    [origin.error s!"URI scheme mismatch: expected '{expected}', found '{u.scheme}'"]
  else []

def ofUrlNotes (s : Storage) (u : Url) : List Entry :=
  schemeNotes scheme .tensorFiles u ++
    match ofUrl s u with
    | .ok t => [Origin.tensorFiles.debug s!"张量文件数量: {t.files.length}"]
    | .error _ => []

def withClasses (t : TensorFiles) (n : Nat) : Except Shape.Fault TensorFiles :=
  (t.shape.withClasses n).map fun shape => { t with shape }

/-- The number with the given bytes. -/
def number (a b c d : UInt8) : Binary32 :=
  ⟨UInt32.ofNat (a.toNat + b.toNat <<< 8 + c.toNat <<< 16 + d.toNat <<< 24)⟩

/-- The bytes of a number. -/
def bytes (x : Binary32) : List UInt8 :=
  let n := x.bits.toNat
  [UInt8.ofNat n, UInt8.ofNat (n >>> 8), UInt8.ofNat (n >>> 16), UInt8.ofNat (n >>> 24)]

/-- Adds the numbers in a stretch of bytes to those that are there. -/
def addNumbers (done : Array Binary32) : List UInt8 → Array Binary32
  | a :: b :: c :: d :: rest => addNumbers (done.push (number a b c d)) rest
  | _ => done

/-- The numbers in a file. Bytes at the end that make no number are left out. -/
def numbers (bytes : List UInt8) : Array Binary32 :=
  addNumbers #[] bytes

/-- The attempt to read a file, with what is reported about it. -/
def attempt (s : Storage) (shape : Shape) (path : String) : List Entry × Option Tensor :=
  match s.read path with
  | .error f => ([Origin.tensorFiles.warn s!"读取张量文件 {path} 失败: {f.message}"], none)
  | .ok bytes =>
    (if bytes.length % 4 = 0 then []
      else
        [Origin.tensorFiles.warn <|
          s!"张量文件 {path} 长度 {bytes.length} 不是 4 的倍数，" ++
            s!"忽略末尾 {bytes.length % 4} 字节"],
      some (shape.tensor (numbers bytes)))

def feed (t : TensorFiles) (s : Storage) : Feed :=
  .ofAttempts (t.files.map (attempt s t.shape))

end TensorFiles

end TangibleBlocks
