import Mathlib.Data.List.Chain
import Mathlib.Data.List.Perm.Basic
import TangibleBlocks.Program.Rows
import TangibleBlocks.Proofs.Sorting.Stable

/-!
Lines of boxes as a splitting. The boxes, sorted from top to bottom, are cut into
consecutive blocks. What counts is how far a box is from the first one of a block,
not from its neighbour, and this alone determines the blocks. Each of them, sorted
from left to right, is a line.
-/

namespace TangibleBlocks

/-- Lists are sorted one by one. -/
theorem Sorting.Comparison.forall₂_stableSort_iff {α : Type} {le : α → α → Bool}
    (hle : Sorting.Comparison le) {blocks lines : List (List α)} :
    List.Forall₂ (Sorting.StableSort le) blocks lines ↔
      lines = blocks.map fun block => block.mergeSort le := by
  induction blocks generalizing lines with
  | nil => rw [List.forall₂_nil_left_iff, List.map_nil]
  | cons block blocks ih =>
      rw [List.forall₂_cons_left_iff, List.map_cons]
      constructor
      · rintro ⟨line, rest, hline, hrest, rfl⟩
        rw [hle.stableSort_iff.mp hline, ih.mp hrest]
      · rintro rfl
        exact ⟨_, _, hle.stableSort_mergeSort block, ih.mpr rfl, rfl⟩

namespace Detection

theorem comparison_higher : Sorting.Comparison higher :=
  Sorting.Comparison.ofRank fun d : Detection => d.centerY.rank

theorem comparison_fartherLeft : Sorting.Comparison fartherLeft :=
  Sorting.Comparison.ofRank fun d : Detection => d.centerX.rank

theorem inLineOf_iff {tolerance : Binary32} {head d : Detection} :
    inLineOf tolerance head d = true ↔ (d.centerY - head.centerY).abs < tolerance :=
  decide_eq_true_iff

theorem cut_cons (tolerance : Binary32) (head : Detection) (rest : List Detection) :
    cut tolerance (head :: rest) =
      (head :: rest.takeWhile (inLineOf tolerance head)) ::
        cut tolerance (rest.dropWhile (inLineOf tolerance head)) := by
  rw [cut]

/-- A list of boxes in consecutive blocks. All boxes of a block are near its first one, and the
first box of the next block is not. -/
structure Splitting (tolerance : Binary32) (items : List Detection)
    (blocks : List (List Detection)) : Prop where
  joined : blocks.flatten = items
  nonempty : ∀ block ∈ blocks, block ≠ []
  near : ∀ head rest, head :: rest ∈ blocks →
    ∀ d ∈ rest, (d.centerY - head.centerY).abs < tolerance
  apart : blocks.IsChain fun block next =>
    ∀ head ∈ block.head?, ∀ d ∈ next.head?, ¬ (d.centerY - head.centerY).abs < tolerance

theorem head?_of_mem_head?_cut {tolerance : Binary32} {items block : List Detection}
    (h : block ∈ (cut tolerance items).head?) : block.head? = items.head? := by
  cases items with
  | nil => simp [cut] at h
  | cons head rest =>
      rw [cut_cons, List.head?_cons, Option.mem_some] at h
      rw [← h]
      rfl

theorem not_inLineOf_of_mem_head?_dropWhile {tolerance : Binary32} {head d : Detection}
    {rest : List Detection} (h : d ∈ (rest.dropWhile (inLineOf tolerance head)).head?) :
    ¬ (d.centerY - head.centerY).abs < tolerance := by
  have hd := List.head?_dropWhile_not (inLineOf tolerance head) rest
  rw [Option.mem_def.mp h] at hd
  rw [← inLineOf_iff, hd]
  exact Bool.false_ne_true

theorem splitting_cut (tolerance : Binary32) (items : List Detection) :
    Splitting tolerance items (cut tolerance items) := by
  induction items using cut.induct tolerance with
  | case1 =>
      rw [cut]
      exact ⟨rfl, by simp, by simp, .nil⟩
  | case2 head rest ih =>
      rw [cut_cons]
      refine ⟨?_, ?_, ?_, ?_⟩
      · rw [List.flatten_cons, ih.joined, List.cons_append, List.takeWhile_append_dropWhile]
      · intro block hblock
        rcases List.mem_cons.mp hblock with rfl | hblock
        · exact List.cons_ne_nil _ _
        · exact ih.nonempty block hblock
      · intro first others hblock d hd
        rcases List.mem_cons.mp hblock with heq | hblock
        · obtain ⟨rfl, rfl⟩ := List.cons.inj heq
          exact inLineOf_iff.mp (List.all_eq_true.mp List.all_takeWhile d hd)
        · exact ih.near first others hblock d hd
      · refine List.isChain_cons.mpr ⟨?_, ih.apart⟩
        intro next hnext first hfirst d hd
        obtain rfl := Option.mem_some.mp hfirst
        rw [head?_of_mem_head?_cut hnext] at hd
        exact not_inLineOf_of_mem_head?_dropWhile hd

namespace Splitting

variable {tolerance : Binary32} {items block : List Detection} {blocks : List (List Detection)}

theorem tail (h : Splitting tolerance items (block :: blocks)) :
    Splitting tolerance blocks.flatten blocks where
  joined := rfl
  nonempty := fun b hb => h.nonempty b (List.mem_cons_of_mem _ hb)
  near := fun head rest hb => h.near head rest (List.mem_cons_of_mem _ hb)
  apart := h.apart.tail

/-- The box behind a block is the first one of the next block. -/
theorem not_near_of_mem_head? {head d : Detection} {rest : List Detection}
    (h : Splitting tolerance items ((head :: rest) :: blocks)) (hd : d ∈ blocks.flatten.head?) :
    ¬ (d.centerY - head.centerY).abs < tolerance := by
  cases blocks with
  | nil => simp at hd
  | cons next blocks =>
      obtain ⟨first, others, rfl⟩ := List.exists_cons_of_ne_nil (h.nonempty next (by simp))
      exact (List.isChain_cons_cons.mp h.apart).1 head rfl d hd

/-- There is only one way to split a list. -/
theorem eq_cut (h : Splitting tolerance items blocks) : blocks = cut tolerance items := by
  induction blocks generalizing items with
  | nil =>
      obtain rfl : [] = items := h.joined
      rw [cut]
  | cons block blocks ih =>
      obtain ⟨head, rest, rfl⟩ := List.exists_cons_of_ne_nil (h.nonempty block List.mem_cons_self)
      obtain rfl : head :: (rest ++ blocks.flatten) = items := h.joined
      have hinside : ∀ d ∈ rest, inLineOf tolerance head d = true := fun d hd =>
        inLineOf_iff.mpr (h.near head rest List.mem_cons_self d hd)
      have hbehind : ∀ d ∈ blocks.flatten.head?, ¬ inLineOf tolerance head d = true :=
        fun d hd hin => h.not_near_of_mem_head? hd (inLineOf_iff.mp hin)
      have hstop : blocks.flatten.takeWhile (inLineOf tolerance head) = [] ∧
          blocks.flatten.dropWhile (inLineOf tolerance head) = blocks.flatten := by
        cases hnext : blocks.flatten with
        | nil => exact ⟨rfl, rfl⟩
        | cons d ds =>
            have hd := hbehind d (by rw [hnext]; rfl)
            exact ⟨List.takeWhile_cons_of_neg hd, List.dropWhile_cons_of_neg hd⟩
      rw [cut_cons, List.takeWhile_append_of_pos hinside, List.dropWhile_append_of_pos hinside,
        hstop.1, hstop.2, List.append_nil, ← ih h.tail]

end Splitting

theorem splitting_iff {tolerance : Binary32} {items : List Detection}
    {blocks : List (List Detection)} :
    Splitting tolerance items blocks ↔ blocks = cut tolerance items := by
  constructor
  · exact Splitting.eq_cut
  · rintro rfl
    exact splitting_cut tolerance items

theorem perm_flatten_rows (items : List Detection) (tolerance : Binary32) :
    (rows items tolerance).flatten.Perm items := by
  let blocks := cut tolerance (items.mergeSort higher)
  have hrows : List.Forall₂ List.Perm (rows items tolerance) blocks := by
    refine List.forall₂_map_left_iff.mpr (List.forall₂_same.mpr fun block _ => ?_)
    exact List.mergeSort_perm block fartherLeft
  have hjoined : blocks.flatten = items.mergeSort higher := (splitting_cut _ _).joined
  have hflat := List.Perm.flatten_congr hrows
  rw [hjoined] at hflat
  exact hflat.trans (List.mergeSort_perm items higher)

theorem ne_nil_of_mem_rows {items row : List Detection} {tolerance : Binary32}
    (h : row ∈ rows items tolerance) : row ≠ [] := by
  obtain ⟨block, hblock, rfl⟩ := List.mem_map.mp h
  intro hnil
  apply (splitting_cut tolerance (items.mergeSort higher)).nonempty block hblock
  exact (hnil ▸ List.mergeSort_perm block fartherLeft).symm.eq_nil

/-- No line is empty and no box is lost. The boxes, sorted from top to bottom, have exactly one
splitting into blocks, and the lines are the blocks, each sorted from left to right; boxes at the
same height or in the same column stay in order.

Nothing is assumed about the tolerance or about where the boxes are: these may be any numbers. -/
theorem rows_eq_splitting (items : List Detection) (tolerance : Binary32) :
    (∀ row ∈ rows items tolerance, row ≠ []) ∧
      (rows items tolerance).flatten.Perm items ∧
      ∃ sorted blocks,
        (∀ s, Sorting.StableSort higher items s ↔ s = sorted) ∧
        (∀ bs, Splitting tolerance sorted bs ↔ bs = blocks) ∧
        (∀ lines, List.Forall₂ (Sorting.StableSort fartherLeft) blocks lines ↔
          lines = rows items tolerance) := by
  refine ⟨fun row h => ne_nil_of_mem_rows h, perm_flatten_rows items tolerance,
    items.mergeSort higher, cut tolerance (items.mergeSort higher), ?_, ?_, ?_⟩
  · intro s
    exact comparison_higher.stableSort_iff
  · intro blocks
    exact splitting_iff
  · intro lines
    exact comparison_fartherLeft.forall₂_stableSort_iff

end Detection

end TangibleBlocks
