import TangibleBlocks.Execution.Notes
import TangibleBlocks.Session.Capture
import TangibleBlocks.Session.Watch

/-!
What is reported about sessions. Displays report, too: `frameRemark` is what a
display reports when it is shown a frame. Frames arrive with notes of their own.
-/

namespace TangibleBlocks

/-- Frames, each with what is reported on its arrival, and what is reported when there are no
more. -/
structure Feed where
  arrivals : List (List Entry × Tensor)
  closing : List Entry

namespace Feed

def frames (f : Feed) : List Tensor :=
  f.arrivals.map Prod.snd

/-- Frames that arrive without a word. -/
def ofFrames (ts : List Tensor) : Feed :=
  ⟨ts.map fun t => ([], t), []⟩

/-- The same feed with more notes at its beginning. -/
def prepend (notes : List Entry) (f : Feed) : Feed :=
  match f.arrivals with
  | [] => { f with closing := notes ++ f.closing }
  | (ns, t) :: rest => { f with arrivals := (notes ++ ns, t) :: rest }

/-- The feed of attempts to get a frame, some of which only leave notes. -/
def ofAttempts : List (List Entry × Option Tensor) → Feed
  | [] => ⟨[], []⟩
  | (notes, some t) :: rest =>
    let f := ofAttempts rest
    { f with arrivals := (notes, t) :: f.arrivals }
  | (notes, none) :: rest => (ofAttempts rest).prepend notes

end Feed

/-- The time that a frame has taken, to its decoding and to its end. -/
structure Elapsed where
  decoded : Duration
  shown : Duration

namespace Watcher

variable {δ ε : Type}

/-- What is reported about one frame. -/
def stepNotes (w : Watcher) (d : Display δ ε)
    (frameRemark : δ → Tensor → List Detection → List Entry) (elapsed : Elapsed) (now : Timestamp)
    (t : Tensor) (s : Watching δ) : List Entry :=
  let items := w.detector.infer t
  let frame := s.frame + 1
  let shown := (w.present d t s).1
  let seen := w.detector.inferNotes t ++ frameRemark s.display t items
  let counted :=
    Origin.session.info <|
      s!"第 {frame} 帧: {items.length} 个积木，耗时: " ++
        s!"{elapsed.decoded.brief} / {elapsed.shown.brief}"
  match (w.step d now t s).2 with
  | .cancelled => [Origin.session.warn "取消信号接收，退出检测循环"]
  | .frozen => [Origin.session.info "快照已冻结，退出检测循环"]
  | .failed _ => seen
  | .refused =>
    seen ++ counted :: shown.slot.publishNotes frame ++
      [Origin.session.info s!"快照已冻结，丢弃第 {frame} 帧并退出检测循环"]
  | .enough => seen ++ [counted, Origin.session.info s!"达到指定帧数 {frame}, 退出检测循环"]
  | .goOn => seen ++ [counted]

def endNotes : List Entry :=
  [Origin.session.info "检测循环结束"]

def framesNotes (w : Watcher) (d : Display δ ε)
    (frameRemark : δ → Tensor → List Detection → List Entry) (elapsed : Elapsed) (now : Timestamp)
    (closing : List Entry) : List (List Entry × Tensor) → Watching δ → List Entry
  | [], _ => closing ++ endNotes
  | (notes, t) :: rest, s =>
    notes ++ w.stepNotes d frameRemark elapsed now t s ++
      match w.step d now t s with
      | (s', .goOn) => framesNotes w d frameRemark elapsed now closing rest s'
      | (_, .failed _) => []
      | _ => endNotes

def startNote : Entry :=
  Origin.session.info "开始检测循环..."

def watchNotes (w : Watcher) (d : Display δ ε)
    (frameRemark : δ → Tensor → List Detection → List Entry) (elapsed : Elapsed) (now : Timestamp)
    (feed : Feed) (s : Watching δ) : List Entry :=
  startNote :: w.framesNotes d frameRemark elapsed now feed.closing feed.arrivals s

end Watcher

namespace Runner

variable {σ : Type}

def captureNotes (k : Runner σ) (remark : σ → Cell → List Entry) (slot : Slot) (r : Robot)
    (s : σ) : List Entry :=
  let snapshot := slot.snapshot
  let program := k.compiler.compile snapshot.items
  Origin.session.info s!"拍照: 第 {snapshot.frame} 帧，{snapshot.items.length} 个积木" ::
    k.compiler.compileNotes snapshot.items ++
    (if program.isEmpty then [Origin.session.warn "快照中没有可执行的程序"] else []) ++
    k.host.runNotes remark k.pace program r s

end Runner

end TangibleBlocks
