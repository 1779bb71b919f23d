import TangibleBlocks.Session.Notes

/-!
A session of a single frame: it is decoded and shown, and that is all.
-/

namespace TangibleBlocks

namespace OneShot

variable {δ ε : Type}

inductive Fault (ε : Type) where
  | noFrame
  | display (failure : ε)

def Fault.message (text : ε → String) : Fault ε → String
  | noFrame => "没有输入帧"
  | display e => text e

/-- Shows the first frame. -/
def run (detector : Detector) (d : Display δ ε) (frames : List Tensor) (s : δ) :
    δ × Option (Fault ε) :=
  match frames with
  | [] => (s, some .noFrame)
  | t :: _ =>
    let reply := d.showFrame s t (detector.infer t)
    (reply.display, reply.failure.map .display)

def startNote : Entry :=
  Origin.session.info "开始任务..."

def decodingNote : Entry :=
  Origin.session.info "输入帧获取成功，开始解码..."

def runNotes (detector : Detector) (d : Display δ ε)
    (frameRemark : δ → Tensor → List Detection → List Entry) (elapsed : Elapsed) (feed : Feed)
    (s : δ) : List Entry :=
  startNote ::
    match feed.arrivals with
    | [] => feed.closing
    | (notes, t) :: _ =>
      let items := detector.infer t
      notes ++ decodingNote :: detector.inferNotes t ++
        Origin.session.info s!"解码完成，耗时: {elapsed.decoded.brief}" :: frameRemark s t items ++
        match (d.showFrame s t items).failure with
        | some _ => []
        | none => [Origin.session.info s!"渲染完成，耗时: {elapsed.shown.brief}"]

end OneShot

end TangibleBlocks
