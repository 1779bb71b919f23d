import Mathlib.Data.List.Forall2
import TangibleBlocks.Program.Compiler
import TangibleBlocks.Proofs.Program.Segments

/-!
Writing programs. Every program whose numbers are on a digit block can be laid on
the table: a command is a line with its action, its arrow and its digit, as far as
it has them, and a loop is a line that opens it, the lines of its body and a line
that closes it. The compiler reads such a table as the program that was written,
in whatever order the blocks of a line are and whatever decoration is among them.
-/

namespace TangibleBlocks

/-! ### Composed lines -/

namespace Block

/-- The digit block for a number. -/
def ofNumber (n : Nat) : Block :=
  .digit (UInt8.ofNat n)

/-- A line with a block that says what to do, an arrow and a digit, or some of them. -/
def compose (key : Option Block) (h : Option Heading) (n : Option Nat) : List Block :=
  key.toList ++ (h.map arrow).toList ++ (n.map ofNumber).toList

/-- The same blocks in any order, with decoration anywhere between them. -/
def Arranges (line' line : List Block) : Prop :=
  (line'.filter fun b => b.role ≠ .decorative).Perm line

instance (line' line : List Block) : Decidable (Arranges line' line) :=
  inferInstanceAs (Decidable (List.Perm _ line))

end Block

/-- The block for an action. The robot stays where it is without a block. -/
def Action.block? : Action → Option Block
  | walk => some .walk
  | jump => some .jump
  | pickUp => some .pickUp
  | stay => none

namespace Command

def Writable (c : Command) : Prop :=
  1 ≤ c.count ∧ c.count ≤ 9

/-- What is done once needs no digit. -/
def digit? (c : Command) : Option Nat :=
  if 1 < c.count then some c.count else none

def line (c : Command) : List Block :=
  Block.compose c.action.block? c.direction c.digit?

end Command

namespace Node

def Writable : Node → Prop
  | command c => c.Writable
  | loop n body => (2 ≤ n ∧ n ≤ 9) ∧ ∀ c ∈ body, c.Writable

/-- The lines in which a node is written. -/
def lines : Node → List (List Block)
  | command c => [c.line]
  | loop n body => Block.compose (some .loop) none (some n) :: (body.map Command.line ++ [[.start]])

end Node

namespace Program

/-- All numbers are on digit blocks, but for those of commands that act once. -/
def Writable (p : Program) : Prop :=
  ∀ n ∈ p.nodes, n.Writable

/-- The lines in which a program is written. -/
def lines (p : Program) : List (List Block) :=
  p.nodes.flatMap Node.lines

example :
    lines ⟨[.loop 3 [⟨.walk, some .right, 2⟩, .once .stay], .command (.once .jump)]⟩ =
      [[.loop, .digit 3], [.walk, .arrow .right, .digit 2], [], [.start], [.jump]] := by decide

end Program

/-! ### Blocks of written lines -/

namespace Command

theorem digit?_bounds {c : Command} (hc : c.Writable) : ∀ n ∈ c.digit?, 2 ≤ n ∧ n ≤ 9 := by
  intro n hn
  rw [digit?] at hn
  split at hn
  · next hcount =>
      obtain rfl := Option.some.inj hn
      exact ⟨hcount, hc.2⟩
  · cases hn

theorem getD_digit? {c : Command} (hc : c.Writable) : c.digit?.getD 1 = c.count := by
  rw [digit?]
  split
  · rfl
  · next hcount => exact Nat.le_antisymm hc.1 (Nat.le_of_not_lt hcount)

end Command

namespace Block

theorem multiplier?_ofNumber {n : Nat} (h : n ≤ 9) : (ofNumber n).multiplier? = some n := by
  show some (UInt8.ofNat n).toNat = some n
  rw [UInt8.toNat_ofNat_of_lt' (show n < 256 by omega)]

/-- Every number from 2 to 9 is on a block. -/
theorem ofNumber_mem_standard {n : Nat} (h : 2 ≤ n) (h' : n ≤ 9) : ofNumber n ∈ standard := by
  have hall : ∀ n ∈ List.range' 2 8, ofNumber n ∈ standard := by decide
  exact hall n (List.mem_range'_1.mpr (by omega))

theorem arrow_mem_standard (h : Heading) : arrow h ∈ standard := by
  cases h <;> decide

theorem mem_standard_of_role {b : Block} (h : b.role = .action ∨ b.role = .control) :
    b ∈ standard := by
  cases b with
  | walk => decide
  | jump => decide
  | pickUp => decide
  | start => decide
  | loop => decide
  | _ => rcases h with h | h <;> cases h

theorem mem_compose {key : Option Block} {h : Option Heading} {n : Option Nat} {b : Block}
    (hb : b ∈ compose key h n) :
    key = some b ∨ (∃ d, h = some d ∧ arrow d = b) ∨ ∃ m, n = some m ∧ ofNumber m = b := by
  simpa [compose, or_assoc] using hb

end Block

/-- A line of blocks that mean something, with a digit that there is. -/
def Block.Composed (line : List Block) : Prop :=
  ∃ key h n, line = Block.compose key h n ∧
    (∀ b ∈ key, b.role = .action ∨ b.role = .control) ∧ ∀ m ∈ n, 2 ≤ m ∧ m ≤ 9

namespace Block.Composed

theorem mem_standard {line : List Block} (hline : Composed line) : ∀ b ∈ line, b ∈ standard := by
  obtain ⟨key, h, n, rfl, hkey, hn⟩ := hline
  intro b hb
  rcases mem_compose hb with hb | ⟨d, -, rfl⟩ | ⟨m, hm, rfl⟩
  · exact mem_standard_of_role (hkey b hb)
  · exact arrow_mem_standard d
  · exact ofNumber_mem_standard (hn m hm).1 (hn m hm).2

/-- There is no decoration unless it is added. -/
theorem arranges_self {line : List Block} (hline : Composed line) : Arranges line line := by
  obtain ⟨key, h, n, rfl, hkey, hn⟩ := hline
  have hrole : ∀ b ∈ compose key h n, b.role ≠ .decorative := by
    intro b hb
    rcases mem_compose hb with hb | ⟨d, -, rfl⟩ | ⟨m, -, rfl⟩
    · rcases hkey b hb with h | h <;> simp [h]
    · exact nofun
    · exact nofun
  rw [Arranges, List.filter_eq_self.mpr (by simpa using hrole)]

end Block.Composed

theorem Command.composed_line {c : Command} (hc : c.Writable) : Block.Composed c.line := by
  refine ⟨_, _, _, rfl, ?_, digit?_bounds hc⟩
  cases c.action <;> simp [Action.block?, Block.role]

theorem Node.composed_of_mem_lines {node : Node} (h : node.Writable) {line : List Block}
    (hline : line ∈ node.lines) : Block.Composed line := by
  cases node with
  | command c =>
      obtain rfl := List.mem_singleton.mp hline
      exact Command.composed_line h
  | loop n body =>
      obtain ⟨hn, hbody⟩ : (2 ≤ n ∧ n ≤ 9) ∧ ∀ c ∈ body, c.Writable := h
      rcases List.mem_cons.mp hline with rfl | hline
      · exact ⟨_, _, _, rfl, by simp [Block.role], by simpa using hn⟩
      rcases List.mem_append.mp hline with hline | hline
      · obtain ⟨c, hc, rfl⟩ := List.mem_map.mp hline
        exact Command.composed_line (hbody c hc)
      · obtain rfl := List.mem_singleton.mp hline
        exact ⟨some .start, none, none, rfl, by simp [Block.role], by simp⟩

theorem Program.composed_of_mem_lines {p : Program} (hp : p.Writable) {line : List Block}
    (hline : line ∈ p.lines) : Block.Composed line := by
  obtain ⟨node, hnode, hline⟩ := List.mem_flatMap.mp hline
  exact Node.composed_of_mem_lines (hp node hnode) hline

/-! ### Reading a line -/

namespace Block

/-- Decoration says nothing. -/
theorem readings_of_decorative {b : Block} (h : b.role = .decorative) :
    b.opcode? = none ∧ b.heading? = none ∧ b.multiplier? = none := by
  cases b with
  | circle => exact ⟨rfl, rfl, rfl⟩
  | triangle => exact ⟨rfl, rfl, rfl⟩
  | sleep => exact ⟨rfl, rfl, rfl⟩
  | _ => cases h

theorem filterMap_toList {α β : Type} (f : α → Option β) (o : Option α) :
    o.toList.filterMap f = (o.bind f).toList := by
  cases o with
  | none => rfl
  | some x => cases h : f x <;> simp [h]

theorem filterMap_opcode?_compose (key : Option Block) (h : Option Heading) (n : Option Nat) :
    (compose key h n).filterMap opcode? = (key.bind opcode?).toList := by
  rw [compose, List.filterMap_append, List.filterMap_append]
  simp only [filterMap_toList]
  cases h <;> cases n <;> simp [opcode?, ofNumber]

theorem filterMap_heading?_compose {key : Option Block} (hkey : key.bind heading? = none)
    (h : Option Heading) (n : Option Nat) : (compose key h n).filterMap heading? = h.toList := by
  rw [compose, List.filterMap_append, List.filterMap_append]
  simp only [filterMap_toList, hkey]
  cases h <;> cases n <;> simp [heading?, ofNumber]

theorem filterMap_multiplier?_compose {key : Option Block} (hkey : key.bind multiplier? = none)
    (h : Option Heading) {n : Option Nat} (hn : ∀ m ∈ n, m ≤ 9) :
    (compose key h n).filterMap multiplier? = n.toList := by
  rw [compose, List.filterMap_append, List.filterMap_append]
  simp only [filterMap_toList, hkey]
  cases n with
  | none => cases h <;> rfl
  | some m =>
      rw [Option.map_some, Option.bind_some, multiplier?_ofNumber (hn m rfl)]
      cases h <;> rfl

/-- What counts in a line is the last of its blocks of a kind, so if there is only one, it counts
wherever it is. -/
theorem getLast?_filterMap_of_arranges {α : Type} {f : Block → Option α}
    (hf : ∀ b, b.role = .decorative → f b = none) {line line' : List Block} {o : Option α}
    (hline : line.filterMap f = o.toList) (h : Arranges line' line) :
    (line'.filterMap f).getLast? = o := by
  have hfilter : (line'.filter fun b => b.role ≠ .decorative).filterMap f = line'.filterMap f := by
    rw [List.filterMap_filter]
    refine List.filterMap_congr fun b _ => ?_
    by_cases hb : b.role = .decorative <;> simp [hb, hf]
  have hperm : (line'.filterMap f).Perm o.toList := by
    rw [← hfilter, ← hline]
    exact h.filterMap f
  cases o with
  | none => rw [hperm.eq_nil]; rfl
  | some x => rw [List.perm_singleton.mp hperm]; rfl

end Block

namespace Statement

theorem ofLine_of_arranges_compose {key : Option Block} {h : Option Heading} {n : Option Nat}
    (hkey : key.bind Block.heading? = none) (hkey' : key.bind Block.multiplier? = none)
    (hn : ∀ m ∈ n, m ≤ 9) {line : List Block} (ha : Block.Arranges line (Block.compose key h n)) :
    ofLine line = ofParts (key.bind Block.opcode?) h n := by
  have hop := Block.getLast?_filterMap_of_arranges
    (fun _ hb => (Block.readings_of_decorative hb).1) (Block.filterMap_opcode?_compose key h n) ha
  have hheading := Block.getLast?_filterMap_of_arranges
    (fun _ hb => (Block.readings_of_decorative hb).2.1)
    (Block.filterMap_heading?_compose hkey h n) ha
  have hmultiplier := Block.getLast?_filterMap_of_arranges
    (fun _ hb => (Block.readings_of_decorative hb).2.2)
    (Block.filterMap_multiplier?_compose hkey' h hn) ha
  rw [ofLine_eq_ofParts, hop, hheading, hmultiplier]

theorem ofLine_of_arranges_command {c : Command} (hc : c.Writable) {line : List Block}
    (ha : Block.Arranges line c.line) : ofLine line = .command c := by
  have hreadings : c.action.block?.bind Block.heading? = none ∧
      c.action.block?.bind Block.multiplier? = none := by
    cases c.action <;> exact ⟨rfl, rfl⟩
  have hdigit : ∀ n ∈ c.digit?, n ≤ 9 := fun n hn => (Command.digit?_bounds hc n hn).2
  rw [ofLine_of_arranges_compose hreadings.1 hreadings.2 hdigit ha]
  obtain ⟨a, d, n⟩ := c
  have hcount := Command.getD_digit? hc
  cases a <;> simp [ofParts, Action.block?, Block.opcode?, hcount]

theorem ofLine_of_arranges_loop {n : Nat} (hn : n ≤ 9) {line : List Block}
    (ha : Block.Arranges line (Block.compose (some .loop) none (some n))) :
    ofLine line = .loop (some n) none :=
  ofLine_of_arranges_compose rfl rfl (by simpa using hn) ha

theorem ofLine_of_arranges_start {line : List Block} (ha : Block.Arranges line [.start]) :
    ofLine line = .start := by
  have hcompose : Block.Arranges line (Block.compose (some .start) none none) := ha
  exact ofLine_of_arranges_compose rfl rfl (by simp) hcompose

/-! ### Reading a program -/

/-- A line stands for a statement, in any arrangement of its blocks. -/
def ReadFrom (s : Statement) (line : List Block) : Prop :=
  ∀ line', Block.Arranges line' line → ofLine line' = s

theorem map_ofLine_of_arranges {ss : List Statement} {lines lines' : List (List Block)}
    (h : List.Forall₂ ReadFrom ss lines) (ha : List.Forall₂ Block.Arranges lines' lines) :
    lines'.map ofLine = ss := by
  induction h generalizing lines' with
  | nil =>
      cases ha
      rfl
  | cons hline _ ih =>
      cases ha with
      | cons ha has => rw [List.map_cons, hline _ ha, ih has]

end Statement

namespace Node

/-- The statements that make a node. -/
def statements : Node → List Statement
  | command c => [.command c]
  | loop n body => .loop (some n) none :: (body.map Statement.command ++ [.start])

theorem statements_readFrom_lines {node : Node} (h : node.Writable) :
    List.Forall₂ Statement.ReadFrom node.statements node.lines := by
  cases node with
  | command c => exact .cons (fun _ => Statement.ofLine_of_arranges_command h) .nil
  | loop n body =>
      obtain ⟨hn, hbody⟩ : (2 ≤ n ∧ n ≤ 9) ∧ ∀ c ∈ body, c.Writable := h
      have hcommands : List.Forall₂ Statement.ReadFrom (body.map Statement.command)
          (body.map Command.line) := by
        rw [List.forall₂_map_left_iff, List.forall₂_map_right_iff, List.forall₂_same]
        exact fun c hc _ => Statement.ofLine_of_arranges_command (hbody c hc)
      refine .cons (fun _ => Statement.ofLine_of_arranges_loop hn.2) ?_
      exact List.rel_append hcommands (.cons (fun _ => Statement.ofLine_of_arranges_start) .nil)

/-- A node comes out of its statements whatever is behind them. -/
theorem nodes_statements_append (fallback : Nat) {node : Node} (h : node.Writable)
    (rest : List Statement) :
    Statement.nodes fallback none (node.statements ++ rest) =
      node :: Statement.nodes fallback none rest := by
  cases node with
  | command c => rfl
  | loop n body =>
      obtain ⟨hn, -⟩ : (2 ≤ n ∧ n ≤ 9) ∧ ∀ c ∈ body, c.Writable := h
      have hstart : .start ∉ Statement.loop (some n) none :: body.map Statement.command := by
        simp
      have hbody : (body.map Statement.command).filterMap Statement.inBody? = body := by
        rw [List.filterMap_map]
        exact List.filterMap_some
      have hsegment : (loop n body).statements ++ rest =
          (Statement.loop (some n) none :: body.map Statement.command) ++ .start :: rest := by
        simp [statements]
      rw [hsegment, Statement.nodes_append_start, Statement.nodes_of_segment fallback hstart,
        Statement.segmentNodes_loop, hbody, Option.getD_some,
        Nat.max_eq_left (show 1 ≤ n by omega), List.singleton_append]

end Node

namespace Program

theorem ofStatements_statements (fallback : Nat) {p : Program} (hp : p.Writable) :
    ofStatements fallback (p.nodes.flatMap Node.statements) = p := by
  obtain ⟨ns⟩ := p
  refine congrArg Program.mk ?_
  show Statement.nodes fallback none (ns.flatMap Node.statements) = ns
  induction ns with
  | nil => rfl
  | cons node ns ih =>
      obtain ⟨hnode, hns⟩ := List.forall_mem_cons.mp hp
      rw [List.flatMap_cons, Node.nodes_statements_append fallback hnode, ih hns]

theorem statements_readFrom_lines {p : Program} (hp : p.Writable) :
    List.Forall₂ Statement.ReadFrom (p.nodes.flatMap Node.statements) p.lines := by
  obtain ⟨ns⟩ := p
  show List.Forall₂ _ (ns.flatMap Node.statements) (ns.flatMap Node.lines)
  induction ns with
  | nil => exact .nil
  | cons node ns ih =>
      obtain ⟨hnode, hns⟩ := List.forall_mem_cons.mp hp
      rw [List.flatMap_cons, List.flatMap_cons]
      exact List.rel_append (Node.statements_readFrom_lines hnode) (ih hns)

end Program

namespace Compiler

/-- Programs are written with the blocks that there are, and the compiler reads back what was
written, however often it repeats loops without a number: from the lines as they are, and also when
the blocks in every line are mixed and decoration is put between them. -/
theorem compileLines_of_arranges (k : Compiler) {p : Program} (hp : p.Writable) :
    (∀ line ∈ p.lines, ∀ b ∈ line, b ∈ Block.standard) ∧
      k.compileLines p.lines = p ∧
      ∀ lines, List.Forall₂ Block.Arranges lines p.lines → k.compileLines lines = p := by
  have hread : ∀ lines, List.Forall₂ Block.Arranges lines p.lines → k.compileLines lines = p := by
    intro lines hlines
    have hreadFrom := Program.statements_readFrom_lines hp
    rw [compileLines, Statement.map_ofLine_of_arranges hreadFrom hlines,
      Program.ofStatements_statements k.loopRepeats hp]
  refine ⟨fun line hline => (Program.composed_of_mem_lines hp hline).mem_standard, ?_, hread⟩
  refine hread p.lines (List.forall₂_same.mpr fun line hline => ?_)
  exact (Program.composed_of_mem_lines hp hline).arranges_self

/-- Two loops next to each other, the second of them empty, in front of a command: the blocks of the
lines are in disorder and the robot sleeps. -/
theorem compileLines_of_disorder :
    standard.compileLines
        [[.digit 3, .loop], [.circle, .digit 2, .arrow .up, .sleep, .walk], [.triangle],
          [.sleep, .start], [.loop, .circle, .digit 9], [.start], [.arrow .down, .jump]] =
      ⟨[.loop 3 [⟨.walk, some .up, 2⟩, .once .stay], .loop 9 [],
        .command ⟨.jump, some .down, 1⟩]⟩ := by
  refine (compileLines_of_arranges standard ?_).2.2 _ ?_
  · simp [Program.Writable, Node.Writable, Command.Writable, Command.once]
  · show List.Forall₂ Block.Arranges _
      [[.loop, .digit 3], [.walk, .arrow .up, .digit 2], [], [.start], [.loop, .digit 9], [.start],
        [.jump, .arrow .down]]
    simp only [List.forall₂_cons]
    decide

end Compiler

end TangibleBlocks
