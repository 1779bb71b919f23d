import TangibleBlocks.Journal
import TangibleBlocks.Program.Statement

/-!
From statements to a program. The statements behind the opening of a loop form
its body, up to the next start block or the end. A start block outside of a loop
does nothing, and a loop that is opened inside of a loop becomes a command of
the body that does not act.
-/

namespace TangibleBlocks

/-- A loop that has not been closed, with its body in reverse. -/
structure OpenLoop where
  repeats : Nat
  reversed : List Command

namespace OpenLoop

def close (l : OpenLoop) : Node :=
  .loop l.repeats l.reversed.reverse

def add (l : OpenLoop) (c : Command) : OpenLoop :=
  { l with reversed := c :: l.reversed }

end OpenLoop

namespace Statement

/-- The nodes that a list of statements makes, behind a loop that may be open. A loop without a
number of its own is repeated `fallback` times, and every loop at least once. -/
def nodes (fallback : Nat) : Option OpenLoop → List Statement → List Node
  | none, [] => []
  | some l, [] => [l.close]
  | none, .start :: rest => nodes fallback none rest
  | some l, .start :: rest => l.close :: nodes fallback none rest
  | none, .loop n _ :: rest => nodes fallback (some ⟨max (n.getD fallback) 1, []⟩) rest
  | some l, .loop n h :: rest => nodes fallback (some (l.add ⟨.stay, h, n.getD 1⟩)) rest
  | none, .command c :: rest => .command c :: nodes fallback none rest
  | some l, .command c :: rest => nodes fallback (some (l.add c)) rest

/-- What is reported about the statements from the given line on. -/
def notes (fallback : Nat) : Nat → Option OpenLoop → List Statement → List Entry
  | _, none, [] => []
  | _, some _, [] => [Origin.folding.debug "循环未闭合，在输入结束处隐式结束"]
  | line, none, .start :: rest =>
    Origin.folding.debug
        (if line = 1 then "跳过起始标记" else s!"第 {line} 行的 inicio 不在循环中，忽略") ::
      notes fallback (line + 1) none rest
  | line, some l, .start :: rest =>
    Origin.folding.debug s!"第 {line} 行结束循环, 循环体 {l.reversed.length} 条命令" ::
      notes fallback (line + 1) none rest
  | line, none, .loop n _ :: rest =>
    notes fallback (line + 1) (some ⟨max (n.getD fallback) 1, []⟩) rest
  | line, some l, .loop n h :: rest =>
    Origin.folding.warn s!"第 {line} 行的 looping 出现在循环中，循环不能嵌套，按空命令处理" ::
      notes fallback (line + 1) (some (l.add ⟨.stay, h, n.getD 1⟩)) rest
  | line, none, .command _ :: rest => notes fallback (line + 1) none rest
  | line, some l, .command c :: rest => notes fallback (line + 1) (some (l.add c)) rest

end Statement

namespace Program

def ofStatements (fallback : Nat) (statements : List Statement) : Program :=
  ⟨Statement.nodes fallback none statements⟩

end Program

end TangibleBlocks
