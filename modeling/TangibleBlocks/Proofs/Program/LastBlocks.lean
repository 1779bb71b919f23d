import Mathlib.Data.List.Induction
import Mathlib.Logic.Function.Basic
import TangibleBlocks.Program.Statement

/-!
What of a line counts. A block tells what to do, in which direction or how often, or
it tells nothing at all, and of the blocks that tell the same thing the last one in the
line counts. So a line can be read from left to right with one place for each of the
three, and of two parts of a line the second one overrides the first.
-/

namespace TangibleBlocks

/-- What is to be told about a line: what to do, in which direction and how often. -/
inductive Aspect where
  | operation
  | direction
  | multiplier
  deriving DecidableEq

namespace Block

/-- What a block tells about its line. -/
def aspect? (b : Block) : Option Aspect :=
  match b.role with
  | .action | .control => some .operation
  | .direction => some .direction
  | .multiplier => some .multiplier
  | .decorative => none

/-- The last block in a line that tells a given thing about it. -/
def last? (line : List Block) (a : Aspect) : Option Block :=
  (line.filter fun b => b.aspect? = some a).getLast?

/-- Takes one more block of a line into account. It replaces the one that told the same thing. -/
def note (told : Aspect → Option Block) (b : Block) : Aspect → Option Block :=
  match b.aspect? with
  | some a => Function.update told a (some b)
  | none => told

theorem last?_eq_some_iff {line : List Block} {a : Aspect} {b : Block} :
    last? line a = some b ↔
      ∃ before after, line = before ++ b :: after ∧ b.aspect? = some a ∧
        ∀ c ∈ after, c.aspect? ≠ some a := by
  rw [last?, List.getLast?_filter, List.find?_eq_some_iff_append]
  simp only [decide_eq_true_eq, Bool.not_eq_true', decide_eq_false_iff_not, List.reverse_eq_iff]
  constructor
  · rintro ⟨hb, after, before, rfl, hafter⟩
    exact ⟨before.reverse, after.reverse, by simp, hb,
      fun c hc => hafter c (List.mem_reverse.mp hc)⟩
  · rintro ⟨before, after, rfl, hb, hafter⟩
    exact ⟨hb, after.reverse, before.reverse, by simp,
      fun c hc => hafter c (List.mem_reverse.mp hc)⟩

theorem last?_append (line rest : List Block) (a : Aspect) :
    last? (line ++ rest) a = (last? rest a).or (last? line a) := by
  rw [last?, List.filter_append, List.getLast?_append]
  rfl

theorem last?_concat (line : List Block) (b : Block) :
    last? (line ++ [b]) = note (last? line) b := by
  funext a
  rw [last?_append, note]
  cases hb : b.aspect? with
  | none => simp [last?, hb]
  | some told =>
      by_cases h : a = told
      · subst h
        simp [last?, hb]
      · simp [last?, hb, Function.update_of_ne h, Ne.symm h]

/-- Going through a line from left to right, with one place for each thing to be told, ends with the
last blocks. -/
theorem foldl_note (line : List Block) : line.foldl note (fun _ => none) = last? line := by
  induction line using List.reverseRecOn with
  | nil => rfl
  | append_singleton line b ih =>
      rw [List.foldl_append, ih, last?_concat]
      rfl

/-- What the blocks of a line tell about one thing ends with what the last of them tells. -/
theorem getLast?_filterMap_eq {α : Type} {f : Block → Option α} {a : Aspect}
    (hf : ∀ b, (f b).isSome = true ↔ b.aspect? = some a) (line : List Block) :
    (line.filterMap f).getLast? = (last? line a).bind f := by
  induction line using List.reverseRecOn with
  | nil => rfl
  | append_singleton line b ih =>
      rw [List.filterMap_append, List.getLast?_append, ih, last?_append]
      -- The block at the end either replaces what was told before or leaves it as it is.
      by_cases hb : b.aspect? = some a
      · obtain ⟨told, htold⟩ := Option.isSome_iff_exists.mp ((hf b).mpr hb)
        simp [last?, hb, htold]
      · have hnone : f b = none := by simpa using (hf b).not.mpr hb
        simp [last?, hb, hnone]

theorem isSome_opcode?_iff (b : Block) :
    b.opcode?.isSome = true ↔ b.aspect? = some .operation := by
  cases b <;> simp [opcode?, aspect?, role]

theorem isSome_heading?_iff (b : Block) :
    b.heading?.isSome = true ↔ b.aspect? = some .direction := by
  cases b <;> simp [heading?, aspect?, role]

theorem isSome_multiplier?_iff (b : Block) :
    b.multiplier?.isSome = true ↔ b.aspect? = some .multiplier := by
  cases b <;> simp [multiplier?, aspect?, role]

end Block

namespace Statement

/-- The statement of which the given blocks tell what to do, in which direction and how often. -/
def ofLast (last : Aspect → Option Block) : Statement :=
  let direction := (last .direction).bind Block.heading?
  let multiplier := (last .multiplier).bind Block.multiplier?
  match last .operation with
  | some .start => .start
  | some .loop => .loop multiplier direction
  | some .walk => .command ⟨.walk, direction, multiplier.getD 1⟩
  | some .jump => .command ⟨.jump, direction, multiplier.getD 1⟩
  | some .pickUp => .command ⟨.pickUp, direction, multiplier.getD 1⟩
  | _ => .command ⟨.stay, direction, multiplier.getD 1⟩

theorem ofLine_eq_ofLast (line : List Block) : ofLine line = ofLast (Block.last? line) := by
  rw [ofLine_eq_ofParts, Block.getLast?_filterMap_eq Block.isSome_opcode?_iff,
    Block.getLast?_filterMap_eq Block.isSome_heading?_iff,
    Block.getLast?_filterMap_eq Block.isSome_multiplier?_iff]
  simp only [ofLast]
  cases Block.last? line .operation with
  | none => rfl
  | some b => cases b <;> rfl

/-- What a line stands for is told by three of its blocks, if it has them: the last one that tells
what to do, the last arrow and the last digit. Lines that agree on these stand for the same,
whatever else there is in them and in whatever order. The blocks of a second part of a line override
those of the first, and reading it from left to right comes to these blocks. -/
theorem ofLine_eq_of_last (line : List Block) :
    ofLine line = ofLast (Block.last? line) ∧
      (∀ a b, Block.last? line a = some b ↔
        ∃ before after, line = before ++ b :: after ∧ b.aspect? = some a ∧
          ∀ c ∈ after, c.aspect? ≠ some a) ∧
      (∀ other, (∀ a, Block.last? other a = Block.last? line a) → ofLine other = ofLine line) ∧
      (∀ rest, ofLine (line ++ rest) =
        ofLast fun a => (Block.last? rest a).or (Block.last? line a)) ∧
      ofLine line = ofLast (line.foldl Block.note fun _ => none) := by
  refine ⟨ofLine_eq_ofLast line, fun a b => Block.last?_eq_some_iff, fun other h => ?_,
    fun rest => ?_, ?_⟩
  · rw [ofLine_eq_ofLast, ofLine_eq_ofLast, funext h]
  · rw [ofLine_eq_ofLast, funext (Block.last?_append line rest)]
  · rw [Block.foldl_note, ofLine_eq_ofLast]

/-- The jump is the last thing to do and the arrow to the left the last one, and the digit is the
only one; circles and triangles tell nothing. -/
example :
    ofLine [.loop, .digit 3, .circle, .arrow .up, .jump, .arrow .left, .triangle] =
      .command ⟨.jump, some .left, 3⟩ := by decide

end Statement

end TangibleBlocks
