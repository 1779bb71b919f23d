import TangibleBlocks.Detection.Basic
import TangibleBlocks.Execution.Notes
import TangibleBlocks.Number.Decimal
import TangibleBlocks.Url.Basic

/-!
Results in the journal. A verbose log also names every block and every motion.
-/

namespace TangibleBlocks

structure LogSink where
  verbose : Bool
  deriving DecidableEq, Inhabited

namespace LogSink

def scheme : String := "log"

/-- The log that an address with the right scheme names. -/
def ofUrl? (u : Url) : Option LogSink :=
  if u.scheme = scheme then some ⟨u.hasKey "verbose"⟩ else none

def detectionText (d : Detection) : String :=
  let whole (x : Binary32) : String := x.toFixed 0
  s!"  - {d.block.label}: {(d.score * Binary32.hundred).toFixed 2}% at " ++
    s!"({whole d.centerX}, {whole d.centerY}, {whole d.width}x{whole d.height})"

/-- What is logged about a frame with the given number of anchors. -/
def frameNotes (l : LogSink) (anchors : Nat) (items : List Detection) : List Entry :=
  if items.isEmpty then [Origin.logSink.info s!"没有检测到积木 ({anchors} 个锚点)"]
  else
    Origin.logSink.info s!"检测到 {items.length} 个积木" ::
      if l.verbose then items.map fun d => Origin.logSink.info (detectionText d) else []

def commandText (c : Command) : String :=
  s!"{c.action.name} {c.directionText} x{c.count}"

/-- The number of a node, aligned to the right. -/
def numberText (n : Nat) : String :=
  (if n < 10 then " " else "") ++ toString n

def nodeNotes (number : Nat) : Node → List Entry
  | .command c => [Origin.logSink.info s!"  {numberText number}. {commandText c}"]
  | .loop n body =>
    Origin.logSink.info s!"  {numberText number}. 循环 x{n}" ::
      body.map fun c => Origin.logSink.info s!"        {commandText c}"

def outcomeText : Motion.Outcome → String
  | .completed => "Completed"
  | .partly n => s!"Partial \x7b entered: {n} \x7d"
  | .voided => "Voided"
  | .rejected => "Rejected"

def motionText (m : Motion) : String :=
  s!"  {m.kind.name} {m.origin.text} -> {m.target.text}: {outcomeText m.outcome}"

def reportNotes (l : LogSink) (r : Report) : List Entry :=
  [Origin.logSink.info <|
    s!"执行 {r.commandsExecuted} 条命令, 拾取 {r.pickUps} 次, 前进受阻 {r.blockedWalks} 次, " ++
      s!"跳跃作废 {r.voidedJumps} 次"] ++
  (if 0 < r.rejectedMotions then
    [Origin.logSink.warn s!"{r.rejectedMotions} 个动作因机器人忙碌被忽略"] else []) ++
  (if r.cancelled then [Origin.logSink.warn "程序被中途取消"] else []) ++
  (match r.finalState with
    | some s => [Origin.logSink.info s!"最终位置 {s.cell.text}, 朝向 {s.heading.name}"]
    | none => []) ++
  if l.verbose then r.motions.map fun m => Origin.logSink.debug (motionText m) else []

/-- What is logged about a program and its execution. -/
def programNotes (l : LogSink) (p : Program) (r : Report) : List Entry :=
  Origin.logSink.info s!"程序共 {p.size} 个节点:" ::
    (p.nodes.zipIdx 1).flatMap (fun n => nodeNotes n.2 n.1) ++ l.reportNotes r

end LogSink

end TangibleBlocks
