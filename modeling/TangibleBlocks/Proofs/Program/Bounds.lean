import Mathlib.Algebra.BigOperators.Group.List.Basic
import TangibleBlocks.Detection.Detector
import TangibleBlocks.Proofs.Block.Numbering
import TangibleBlocks.Proofs.Detection.Scores
import TangibleBlocks.Proofs.Detection.Suppression
import TangibleBlocks.Proofs.Program.Lines
import TangibleBlocks.Proofs.Program.Splitting

/-!
Bounds for the programs that a detector can see. A vocabulary that was read from
labels has only blocks that exist, so that all digits are from 2 to 9, and the
blocks of a detector are blocks of its vocabulary. On the way from the anchors of
a tensor to boxes, to lines and to commands nothing is added, so a program has at
most as many commands as the tensor has anchors.
-/

namespace TangibleBlocks

/-! ### Blocks of a vocabulary -/

namespace Vocabulary

/-- The full set of classes, or what was read from labels. -/
def Labelled (v : Vocabulary) : Prop :=
  v = standard ∨ ∃ labels, ofLabels labels = .ok v

theorem Labelled.subset_standard {v : Vocabulary} (hv : v.Labelled) :
    v.blocks.toList ⊆ Block.standard := by
  rcases hv with rfl | ⟨labels, hlabels⟩
  · exact List.Subset.refl _
  · exact (ofLabels_eq_ok_iff.mp hlabels).2.1

theorem Labelled.mem_standard {v : Vocabulary} (hv : v.Labelled) {number : Nat} {b : Block}
    (hb : v.block? number = some b) : b ∈ Block.standard :=
  hv.subset_standard (Array.mem_toList_iff.mpr (Array.mem_of_getElem? hb))

end Vocabulary

/-- There are no blocks for the digits 0 and 1. -/
theorem Block.number?_bounds {line : List Block} {n : Nat} (hline : line ⊆ standard)
    (h : number? line = some n) : 2 ≤ n ∧ n ≤ 9 := by
  have hdigits : ∀ b ∈ standard, ∀ m ∈ b.multiplier?, 2 ≤ m ∧ m ≤ 9 := by decide
  obtain ⟨d, hd, rfl⟩ := exists_digit_of_number? h
  exact hdigits _ (hline hd) _ rfl

/-! ### From anchors to boxes -/

namespace Tensor

theorem block?_of_mem_candidates {t : Tensor} {v : Vocabulary} {threshold : Binary32}
    {d : Detection} (h : d ∈ t.candidates v threshold) : v.block? d.classId = some d.block := by
  obtain ⟨anchor, -, hd⟩ := exists_of_mem_candidates h
  exact (readFrom_of_candidate? hd).1.block

theorem length_candidates_le (t : Tensor) (v : Vocabulary) (threshold : Binary32) :
    (t.candidates v threshold).length ≤ t.anchors := by
  unfold candidates
  split
  · exact (List.length_filterMap_le _ _).trans_eq List.length_range
  · exact Nat.zero_le _

end Tensor

namespace Detector

theorem block?_of_mem_infer {d : Detector} {t : Tensor} {item : Detection} (h : item ∈ d.infer t) :
    d.vocabulary.block? item.classId = some item.block :=
  Tensor.block?_of_mem_candidates ((Detection.suppress_subperm _ _).subset h)

theorem length_infer_le (d : Detector) (t : Tensor) : (d.infer t).length ≤ t.anchors :=
  (Detection.suppress_subperm _ _).length_le.trans (Tensor.length_candidates_le _ _ _)

end Detector

/-! ### From boxes to lines -/

namespace Detection

theorem mem_of_mem_rows {items row : List Detection} {tolerance : Binary32} {d : Detection}
    (hrow : row ∈ rows items tolerance) (hd : d ∈ row) : d ∈ items :=
  (perm_flatten_rows items tolerance).subset (List.mem_flatten.mpr ⟨row, hrow, hd⟩)

theorem length_rows_le (items : List Detection) (tolerance : Binary32) :
    (rows items tolerance).length ≤ items.length := by
  have hpos : ∀ n ∈ (rows items tolerance).map List.length, 1 ≤ n := by
    intro n hn
    obtain ⟨row, hrow, rfl⟩ := List.mem_map.mp hn
    exact List.length_pos_iff.mpr (ne_nil_of_mem_rows hrow)
  calc (rows items tolerance).length
      = ((rows items tolerance).map List.length).length := (List.length_map _).symm
    _ ≤ ((rows items tolerance).map List.length).sum := List.length_le_sum_of_one_le _ hpos
    _ = (rows items tolerance).flatten.length := List.length_flatten.symm
    _ = items.length := (perm_flatten_rows items tolerance).length_eq

end Detection

namespace Compiler

theorem lines_subset {k : Compiler} {items : List Detection} {blocks : List Block}
    (h : ∀ d ∈ items, d.block ∈ blocks) {line : List Block} (hline : line ∈ k.lines items) :
    line ⊆ blocks := by
  obtain ⟨row, hrow, rfl⟩ := List.mem_map.mp hline
  intro b hb
  obtain ⟨d, hd, rfl⟩ := List.mem_map.mp hb
  exact h d (Detection.mem_of_mem_rows hrow hd)

theorem length_lines_le (k : Compiler) (items : List Detection) :
    (k.lines items).length ≤ items.length := by
  rw [lines, List.length_map]
  exact Detection.length_rows_le items k.lineTolerance

/-! ### From lines to commands -/

theorem count_bounds {k : Compiler} {lines : List (List Block)}
    (h : ∀ line ∈ lines, line ⊆ Block.standard) {c : Command}
    (hc : c ∈ (k.compileLines lines).written) : 1 ≤ c.count ∧ c.count ≤ 9 := by
  rw [written_compileLines] at hc
  obtain ⟨line, hline, rfl⟩ := List.mem_map.mp hc
  show 1 ≤ (Block.number? line).getD 1 ∧ (Block.number? line).getD 1 ≤ 9
  cases hn : Block.number? line with
  | none => simp
  | some n =>
      have hmem : line ∈ lines := (Statement.commandLines_sublist lines).subset hline
      have hbounds := Block.number?_bounds (h line hmem) hn
      rw [Option.getD_some]
      omega

theorem repeats_bounds {k : Compiler} {lines : List (List Block)}
    (h : ∀ line ∈ lines, line ⊆ Block.standard) {n : Nat} {body : List Command}
    (hn : .loop n body ∈ (k.compileLines lines).nodes) :
    (2 ≤ n ∧ n ≤ 9) ∨ n = max 1 k.loopRepeats := by
  obtain ⟨line, hline, rfl⟩ := exists_line_of_loop_mem hn
  cases hm : Block.number? line with
  | none => exact .inr (Nat.max_comm _ _)
  | some m =>
      have hbounds := Block.number?_bounds (h line hline) hm
      rw [Option.getD_some]
      omega

/-- Every box has the block that the vocabulary has for its class. In the program that the boxes
make all numbers are on digit blocks, but for those of commands that act once and of loops that are
repeated as often as is usual. And there are no more commands than lines, no more lines than boxes,
and no more boxes than anchors.

The tensor need not fit the vocabulary, and its numbers and the thresholds may be any. -/
theorem compile_infer_bounds (d : Detector) (hv : d.vocabulary.Labelled) (k : Compiler)
    (t : Tensor) :
    let items := d.infer t
    let p := k.compile items
    (∀ item ∈ items, item.classId < d.vocabulary.size ∧
        d.vocabulary.block? item.classId = some item.block) ∧
      (∀ c ∈ p.written, 1 ≤ c.count ∧ c.count ≤ 9) ∧
      (∀ n body, .loop n body ∈ p.nodes → (2 ≤ n ∧ n ≤ 9) ∨ n = max 1 k.loopRepeats) ∧
      p.written.length ≤ (k.lines items).length ∧
      (k.lines items).length ≤ items.length ∧
      items.length ≤ t.anchors := by
  intro items p
  have hitems : ∀ item ∈ items, d.vocabulary.block? item.classId = some item.block :=
    fun _ h => d.block?_of_mem_infer h
  have hlines : ∀ line ∈ k.lines items, line ⊆ Block.standard :=
    fun _ hline => lines_subset (fun item h => hv.mem_standard (hitems item h)) hline
  refine ⟨?_, fun _ => count_bounds hlines, fun _ _ => repeats_bounds hlines,
    k.length_written_compileLines_le _, k.length_lines_le items, d.length_infer_le t⟩
  exact fun item h => ⟨Vocabulary.lt_size_of_block? (hitems item h), hitems item h⟩

/-- A line with a loop block and a digit, and below it a line to walk. -/
theorem compile_infer_bounds_labels :
    let v : Vocabulary := ⟨#[.loop, .digit 3, .walk], by decide⟩
    let one : Binary32 := ⟨0x3f800000⟩
    let box (x y a b c : Binary32) : Array Binary32 := #[x, y, .two, .two, a, b, c]
    let t : Tensor := ⟨box .zero .zero one .zero .zero ++ box .hundred .two .zero one .zero ++
      box .zero .hundred .zero .zero one, 3, .byAnchor⟩
    let items := (Detector.ofVocabulary v).infer t
    let p := standard.compile items
    Vocabulary.ofLabels ["looping", " 3 ", "andar"] = .ok v ∧
      (∀ item ∈ items, item.classId < v.size ∧ v.block? item.classId = some item.block) ∧
      (∀ c ∈ p.written, 1 ≤ c.count ∧ c.count ≤ 9) ∧
      (∀ n body, .loop n body ∈ p.nodes →
        (2 ≤ n ∧ n ≤ 9) ∨ n = max 1 standard.loopRepeats) ∧
      p.written.length ≤ (standard.lines items).length ∧
      (standard.lines items).length ≤ items.length ∧
      items.length ≤ t.anchors := by
  refine ⟨rfl, ?_⟩
  exact compile_infer_bounds (.ofVocabulary _) (.inr ⟨["looping", " 3 ", "andar"], rfl⟩) standard _

end Compiler

end TangibleBlocks
