import TangibleBlocks.Source.FrameText

/-!
Where frames come from. The scheme of an address tells which kind of source it
names.
-/

namespace TangibleBlocks

inductive Source where
  | tensorFiles (t : TensorFiles)
  | frameText (t : FrameText)
  deriving DecidableEq

namespace Source

inductive Fault where
  | tensorFiles (fault : TensorFiles.Fault)
  | frameText (fault : FrameText.Fault)
  | schemeMismatch
  deriving DecidableEq

def Fault.message : Fault → String
  | tensorFiles f => "Tensor file input error: " ++ f.message
  | frameText f => "JSON tensor input error: " ++ f.message
  | schemeMismatch => "URI scheme mismatch"

def ofUrl (s : Storage) (u : Url) : Except Fault Source :=
  if u.scheme = TensorFiles.scheme then
    ((TensorFiles.ofUrl s u).map tensorFiles).mapError .tensorFiles
  else if u.scheme = FrameText.scheme then
    ((FrameText.ofUrl s u).map frameText).mapError .frameText
  else .error .schemeMismatch

def ofUrlNotes (s : Storage) (u : Url) : List Entry :=
  if u.scheme = TensorFiles.scheme then TensorFiles.ofUrlNotes s u
  else if u.scheme = FrameText.scheme then FrameText.ofUrlNotes s u
  else []

def withClasses (n : Nat) : Source → Except Fault Source
  | tensorFiles t =>
    ((t.withClasses n).map tensorFiles).mapError fun f => .tensorFiles (.shape f)
  | frameText t => ((t.withClasses n).map frameText).mapError fun f => .frameText (.shape f)

def feed (s : Storage) : Source → Feed
  | tensorFiles t => t.feed s
  | frameText t => t.feed

end Source

end TangibleBlocks
