import Mathlib.Data.List.Basic
import TangibleBlocks.Program.Compiler
import TangibleBlocks.Proofs.Program.Segments

/-!
The lines behind a program. Every command is written in a line of its own, and
the program has the commands in the order of their lines. Two kinds of lines
stand for no command: start lines, and of the lines between two of them the first
one with a loop block, which opens the loop. So what can be said of the numbers in
a program can be read off the digits in its lines.
-/

namespace TangibleBlocks

/-- All commands of a program as they are written, those of a loop once. -/
def Program.written (p : Program) : List Command :=
  p.nodes.flatMap Node.written

/-- The number in a line: its last digit. -/
def Block.number? (line : List Block) : Option Nat :=
  (line.filterMap multiplier?).getLast?

/-- The command that a line stands for. The robot stays where it is if the line does not tell it to
act, and also if it is told to loop inside of a loop. -/
def Command.ofLine (line : List Block) : Command :=
  { action :=
      match (line.filterMap Block.opcode?).getLast? with
      | some (.act a) => a
      | _ => .stay
    direction := (line.filterMap Block.heading?).getLast?
    count := (Block.number? line).getD 1 }

/-- The number in a line is on one of its digits. -/
theorem Block.exists_digit_of_number? {line : List Block} {n : Nat} (h : number? line = some n) :
    ∃ d, .digit d ∈ line ∧ d.toNat = n := by
  obtain ⟨b, hb, hn⟩ := List.mem_filterMap.mp (List.mem_of_getLast? h)
  cases b with
  | digit d => exact ⟨d, hb, Option.some.inj hn⟩
  | _ => cases hn

/-! ### Cutting lines -/

section Cutting

variable {α β : Type}

theorem splitOnP_map (f : α → β) (p : β → Bool) (xs : List α) :
    (xs.map f).splitOnP p = (xs.splitOnP (p ∘ f)).map (List.map f) := by
  induction xs with
  | nil => rfl
  | cons x xs ih =>
      obtain ⟨first, rest, hxs⟩ := List.exists_cons_of_ne_nil (List.splitOnP_ne_nil (p ∘ f) xs)
      rw [List.map_cons, List.splitOnP_cons_eq_if_modifyHead, List.splitOnP_cons_eq_if_modifyHead,
        ih, hxs]
      by_cases hx : p (f x) = true <;> simp [hx]

/-- Only the separators are lost. -/
theorem flatten_splitOnP (p : α → Bool) (xs : List α) :
    (xs.splitOnP p).flatten = xs.filter fun x => !p x := by
  induction xs with
  | nil => rfl
  | cons x xs ih =>
      obtain ⟨first, rest, hxs⟩ := List.exists_cons_of_ne_nil (List.splitOnP_ne_nil p xs)
      rw [hxs] at ih
      rw [List.splitOnP_cons_eq_if_modifyHead, hxs]
      by_cases hx : p x = true <;> simp [hx, ← ih]

theorem flatMap_sublist_flatten {f : List α → List α} (hf : ∀ xs, (f xs).Sublist xs)
    (xss : List (List α)) : (xss.flatMap f).Sublist xss.flatten := by
  induction xss with
  | nil => exact .slnil
  | cons xs xss ih => exact (hf xs).append ih

end Cutting

namespace Statement

/-! ### The commands of the lines -/

/-- What a line contributes to the body of a loop is its command, unless it is a start line. -/
theorem inBody?_ofLine {line : List Block} (h : ofLine line ≠ .start) :
    inBody? (ofLine line) = some (Command.ofLine line) := by
  simp only [ofLine_eq_ofParts, ofParts, Command.ofLine, Block.number?] at h ⊢
  cases hop : (line.filterMap Block.opcode?).getLast? with
  | none => rfl
  | some op =>
      cases op with
      | act a => rfl
      | loop => rfl
      | start =>
          rw [hop] at h
          exact absurd rfl h

theorem filterMap_inBody?_ofLine {lines : List (List Block)}
    (h : ∀ line ∈ lines, ofLine line ≠ .start) :
    (lines.map ofLine).filterMap inBody? = lines.map Command.ofLine := by
  rw [List.filterMap_map, ← List.filterMap_eq_map]
  exact List.filterMap_congr fun line hline => inBody?_ofLine (h line hline)

/-- The lines between two start lines. -/
def lineSegments (lines : List (List Block)) : List (List (List Block)) :=
  lines.splitOnP fun line => ofLine line == .start

/-- The lines that stand for commands. -/
def commandLines (lines : List (List Block)) : List (List Block) :=
  (lineSegments lines).flatMap fun segment => segment.eraseP fun line => (ofLine line).opensLoop

theorem flatten_lineSegments (lines : List (List Block)) :
    (lineSegments lines).flatten = lines.filter fun line => !(ofLine line == .start) :=
  flatten_splitOnP _ lines

theorem ne_start_of_mem_segment {lines segment : List (List Block)} {line : List Block}
    (hsegment : segment ∈ lineSegments lines) (hline : line ∈ segment) : ofLine line ≠ .start := by
  have hmem : line ∈ (lineSegments lines).flatten := List.mem_flatten.mpr ⟨segment, hsegment, hline⟩
  rw [flatten_lineSegments] at hmem
  simpa using (List.mem_filter.mp hmem).2

theorem commandLines_sublist (lines : List (List Block)) : (commandLines lines).Sublist lines := by
  have hlines : (commandLines lines).Sublist (lineSegments lines).flatten :=
    flatMap_sublist_flatten (fun _ => List.eraseP_sublist) (lineSegments lines)
  rw [flatten_lineSegments] at hlines
  exact hlines.trans List.filter_sublist

theorem splitOn_map_ofLine (lines : List (List Block)) :
    (lines.map ofLine).splitOn .start = (lineSegments lines).map (List.map ofLine) := by
  rw [List.splitOn_eq_splitOnP, splitOnP_map]
  rfl

/-! ### The numbers of the loops -/

theorem exists_of_loop_mem_segmentNodes {fallback n : Nat} {body : List Command}
    {segment : List Statement} (h : .loop n body ∈ segmentNodes fallback segment) :
    ∃ m direction, .loop m direction ∈ segment ∧ n = max (m.getD fallback) 1 := by
  induction segment with
  | nil => exact absurd h List.not_mem_nil
  | cons s rest ih =>
      cases s with
      | loop m direction =>
          obtain ⟨rfl, -⟩ := Node.loop.inj (List.mem_singleton.mp h)
          exact ⟨m, direction, List.mem_cons_self, rfl⟩
      | start =>
          obtain ⟨m, direction, hmem, hn⟩ := ih h
          exact ⟨m, direction, List.mem_cons_of_mem _ hmem, hn⟩
      | command c =>
          have hrest : .loop n body ∈ segmentNodes fallback rest := by simpa using h
          obtain ⟨m, direction, hmem, hn⟩ := ih hrest
          exact ⟨m, direction, List.mem_cons_of_mem _ hmem, hn⟩

/-- A loop is repeated as often as the statement says that opens it. -/
theorem exists_of_loop_mem_nodes {fallback n : Nat} {body : List Command} {ss : List Statement}
    (h : .loop n body ∈ nodes fallback none ss) :
    ∃ m direction, .loop m direction ∈ ss ∧ n = max (m.getD fallback) 1 := by
  induction ss using segment_induction with
  | last segment hstart =>
      rw [nodes_of_segment fallback hstart] at h
      exact exists_of_loop_mem_segmentNodes h
  | next segment rest hstart ih =>
      rw [nodes_append_start, nodes_of_segment fallback hstart] at h
      rcases List.mem_append.mp h with h | h
      · obtain ⟨m, direction, hmem, hn⟩ := exists_of_loop_mem_segmentNodes h
        exact ⟨m, direction, List.mem_append_left _ hmem, hn⟩
      · obtain ⟨m, direction, hmem, hn⟩ := ih h
        exact ⟨m, direction, List.mem_append_right _ (List.mem_cons_of_mem _ hmem), hn⟩

theorem eq_number?_of_ofLine {line : List Block} {m : Option Nat} {direction : Option Heading}
    (h : ofLine line = .loop m direction) : m = Block.number? line := by
  simp only [ofLine_eq_ofParts, ofParts] at h
  split at h
  · cases h
  · exact (Statement.loop.inj h).1.symm
  · cases h
  · cases h

end Statement

namespace Compiler

open Statement

/-- The commands of a program are those of the lines that stand for commands. -/
theorem written_compileLines (k : Compiler) (lines : List (List Block)) :
    (k.compileLines lines).written = (commandLines lines).map Command.ofLine := by
  have hsegment : ∀ segment ∈ lineSegments lines,
      ((segment.map ofLine).eraseP opensLoop).filterMap inBody? =
        (segment.eraseP fun line => (ofLine line).opensLoop).map Command.ofLine := by
    intro segment hsegment
    rw [List.eraseP_map]
    refine filterMap_inBody?_ofLine fun line hline => ?_
    exact ne_start_of_mem_segment hsegment (List.eraseP_sublist.subset hline)
  calc (k.compileLines lines).written
      = ((lines.map ofLine).splitOn .start).flatMap
          fun segment => (segment.eraseP opensLoop).filterMap inBody? := written_nodes _ _
    _ = (lineSegments lines).flatMap
          fun segment => ((segment.map ofLine).eraseP opensLoop).filterMap inBody? := by
        rw [splitOn_map_ofLine, List.flatMap_map]
    _ = (commandLines lines).map Command.ofLine := by
        rw [List.flatMap_congr hsegment, commandLines, List.map_flatMap]

theorem length_written_compileLines_le (k : Compiler) (lines : List (List Block)) :
    (k.compileLines lines).written.length ≤ lines.length := by
  rw [written_compileLines, List.length_map]
  exact (commandLines_sublist lines).length_le

/-- A loop is repeated as often as one of the lines says, and at least once. -/
theorem exists_line_of_loop_mem {k : Compiler} {lines : List (List Block)} {n : Nat}
    {body : List Command} (h : .loop n body ∈ (k.compileLines lines).nodes) :
    ∃ line ∈ lines, n = max ((Block.number? line).getD k.loopRepeats) 1 := by
  obtain ⟨m, direction, hmem, hn⟩ := exists_of_loop_mem_nodes h
  obtain ⟨line, hline, hof⟩ := List.mem_map.mp hmem
  rw [eq_number?_of_ofLine hof] at hn
  exact ⟨line, hline, hn⟩

/-- Every loop is repeated at least once, whatever the digits are and however often loops without a
digit are to be repeated. Nothing of that kind is done for commands: the count of a command is the
last digit of its line. So all of them have a count of at least one exactly if no line that stands
for a command ends its digits with a 0, which is so if there is no digit 0 at all. -/
theorem count_pos_iff (k : Compiler) (lines : List (List Block)) :
    let p := k.compileLines lines
    (∀ n body, .loop n body ∈ p.nodes → 1 ≤ n) ∧
      p.written.map Command.count =
        (commandLines lines).map (fun line => (Block.number? line).getD 1) ∧
      ((∀ c ∈ p.written, 1 ≤ c.count) ↔
        ∀ line ∈ commandLines lines, Block.number? line ≠ some 0) ∧
      ((∀ line ∈ lines, .digit 0 ∉ line) → ∀ c ∈ p.written, 1 ≤ c.count) := by
  intro p
  have hwritten : p.written = (commandLines lines).map Command.ofLine :=
    k.written_compileLines lines
  have hiff : (∀ c ∈ p.written, 1 ≤ c.count) ↔
      ∀ line ∈ commandLines lines, Block.number? line ≠ some 0 := by
    rw [hwritten, List.forall_mem_map]
    refine forall₂_congr fun line _ => ?_
    show 1 ≤ (Block.number? line).getD 1 ↔ _
    cases Block.number? line with
    | none => simp
    | some n => simp [Nat.one_le_iff_ne_zero]
  refine ⟨?_, ?_, hiff, ?_⟩
  · intro n body h
    obtain ⟨line, -, rfl⟩ := exists_line_of_loop_mem h
    exact Nat.le_max_right _ _
  · rw [hwritten, List.map_map]
    rfl
  · intro hdigits
    refine hiff.mpr fun line hline hzero => ?_
    obtain ⟨d, hd, hd0⟩ := Block.exists_digit_of_number? hzero
    obtain rfl : d = 0 := UInt8.toNat_inj.mp hd0
    exact hdigits line ((commandLines_sublist lines).subset hline) hd

/-- The digit 0 in a line of its own, and in a loop inside of a loop. -/
theorem count_zero_of_digit_zero :
    let p := standard.compileLines [[.walk, .digit 0], [.loop, .digit 0], [.loop, .digit 0]]
    p = ⟨[.command ⟨.walk, none, 0⟩, .loop 1 [⟨.stay, none, 0⟩]]⟩ ∧
      ¬ ∀ c ∈ p.written, 1 ≤ c.count := by
  decide

end Compiler

end TangibleBlocks
