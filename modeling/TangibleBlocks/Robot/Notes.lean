import TangibleBlocks.Journal
import TangibleBlocks.Robot.Moving

/-!
What is reported about motions. The world has a say in it: `remark` is what it
reports when the robot looks for something on a cell.
-/

namespace TangibleBlocks

namespace World

variable {σ : Type}

def advanceNotes (w : World σ) (remark : σ → Cell → List Entry) (h : Heading) :
    Nat → Cell → σ → List Entry
  | 0, _, _ => []
  | n + 1, c, s =>
    match w.enter? s c h with
    | some d => remark s d ++ advanceNotes w remark h n d (w.collect s d)
    | none =>
      match c.next? h with
      | none => [Origin.robot.debug "坐标越界，停止前进"]
      | some d => [Origin.robot.debug s!"前方 {d.text} 不可通行，停止前进"]

end World

namespace Robot

variable {σ : Type}

def faceNotes (r : Robot) (h : Heading) : List Entry :=
  if r.busy then [Origin.robot.warn s!"机器人忙碌中，忽略转向 {h.name}"]
  else [Origin.robot.debug s!"转向 {r.heading.name} -> {h.name}"]

def walkNotes (w : World σ) (remark : σ → Cell → List Entry) (r : Robot) (steps : Nat) (s : σ) :
    List Entry :=
  if r.busy then [Origin.robot.warn s!"机器人忙碌中，忽略前进 {steps} 步"]
  else w.advanceNotes remark r.heading steps r.cell s

def jumpNotes (w : World σ) (remark : σ → Cell → List Entry) (r : Robot) (steps : Nat) (s : σ) :
    List Entry :=
  if r.busy then [Origin.robot.warn s!"机器人忙碌中，忽略跳跃 {steps} 步"]
  else
    match r.landing? steps with
    | none => [Origin.robot.debug s!"跳跃 {steps} 步超出坐标范围，跳跃作废"]
    | some c =>
      if w.passable s c then remark s c
      else [Origin.robot.debug s!"落点 {c.text} 不可通行，跳跃作废"]

end Robot

end TangibleBlocks
