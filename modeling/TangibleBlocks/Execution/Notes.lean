import TangibleBlocks.Execution.Run
import TangibleBlocks.Robot.Notes

/-!
What is reported while a program is executed.
-/

namespace TangibleBlocks

namespace Action

def name : Action → String
  | walk => "Walk"
  | jump => "Jump"
  | pickUp => "Pickup"
  | stay => "None"

end Action

namespace Command

def directionText (c : Command) : String :=
  match c.direction with
  | none => "None"
  | some h => s!"Some({h.name})"

def detail (c : Command) : String :=
  s!"ParsedCommand \x7b action: {c.action.name}, direction: {c.directionText}, " ++
    s!"count: {c.count} \x7d"

end Command

namespace Motion

/-- What is reported once a motion is over. -/
def settleNotes (m : Motion) : List Entry :=
  match m.kind, m.outcome with
  | .walk, .partly n =>
    [Origin.execution.warn s!"前进受阻: 从 {m.origin.text} 只走了 {n} 格到 {m.target.text}"]
  | .jump, .voided => [Origin.execution.warn s!"跳跃落点不可通行，停留在 {m.origin.text}"]
  | _, _ => []

end Motion

namespace Host

variable {σ : Type}

def turnNotes (p : Pace) (r : Robot) : Option Heading → List Entry
  | none => []
  | some d => r.faceNotes d ++ (r.face p.timing d).2.settleNotes

def actNotes (h : Host σ) (remark : σ → Cell → List Entry) (p : Pace) (c : Command) (r : Robot)
    (s : σ) : List Entry :=
  match c.action with
  | .walk =>
    r.walkNotes h.toWorld remark c.count s ++
      (r.walk h.toWorld p.timing c.count s).motion.settleNotes
  | .jump =>
    r.jumpNotes h.toWorld remark c.count s ++
      (r.jump h.toWorld p.timing c.count s).motion.settleNotes
  | .pickUp => remark s r.cell
  | .stay => []

def executeNotes (h : Host σ) (remark : σ → Cell → List Entry) (p : Pace) (c : Command)
    (r : Robot) (s : σ) : List Entry :=
  let turned := h.turn p c.direction r s
  Origin.execution.debug s!"执行命令: {c.detail}" ::
    turnNotes p r c.direction ++ h.actNotes remark p c turned.robot turned.state

def executeAllNotes (h : Host σ) (remark : σ → Cell → List Entry) (p : Pace) :
    List Command → Robot → σ → List Entry
  | [], _, _ => []
  | c :: rest, r, s =>
    let done := h.execute p c r s
    h.executeNotes remark p c r s ++ executeAllNotes h remark p rest done.robot done.state

/-- The last `n` of `total` iterations. -/
def roundsNotes (h : Host σ) (remark : σ → Cell → List Entry) (p : Pace) (body : List Command)
    (total : Nat) : Nat → Robot → σ → List Entry
  | 0, _, _ => []
  | n + 1, r, s =>
    if h.cancelled s then
      [Origin.execution.warn s!"循环在第 {total - n}/{total} 次迭代前被取消"]
    else
      let done := h.executeAll p body r s
      Origin.execution.debug s!"循环迭代 {total - n}/{total}" ::
        h.executeAllNotes remark p body r s ++
        roundsNotes h remark p body total n done.robot done.state

def nodeNotes (h : Host σ) (remark : σ → Cell → List Entry) (p : Pace) (n : Node) (r : Robot)
    (s : σ) : List Entry :=
  match n with
  | .command c => h.executeNotes remark p c r s
  | .loop k body => h.roundsNotes remark p body k k r s

/-- The nodes from the one with the given number on. -/
def nodesNotes (h : Host σ) (remark : σ → Cell → List Entry) (p : Pace) :
    Nat → List Node → Robot → σ → List Entry
  | _, [], _, _ => []
  | number, n :: rest, r, s =>
    if h.cancelled s then [Origin.execution.warn s!"程序在第 {number} 个节点前被取消"]
    else
      let done := h.node p n r s
      h.nodeNotes remark p n r s ++
        if done.report.cancelled then []
        else nodesNotes h remark p (number + 1) rest done.robot done.state

def runNotes (h : Host σ) (remark : σ → Cell → List Entry) (p : Pace) (program : Program)
    (r : Robot) (s : σ) : List Entry :=
  let done := h.run p program r s
  Origin.execution.info s!"开始执行程序，共 {program.size} 个节点" ::
    h.nodesNotes remark p 1 program.nodes r s ++
    [Origin.execution.info <|
      s!"执行结束: {done.report.commandsExecuted} 条命令, 位置 {done.robot.cell.text}, " ++
        s!"朝向 {done.robot.heading.name}"]

end Host

end TangibleBlocks
