import Mathlib.Data.List.FinRange
import TangibleBlocks.Detection.Detector
import TangibleBlocks.Proofs.Detection.Layouts
import TangibleBlocks.Proofs.Detection.Suppression

/-!
The order of the anchors. A tensor that fits is the table of its anchors, stored in
its layout. If the rows of the table are put into another order, the same
candidates are read in another order. Suppression sorts them by their scores, so it
does not notice as long as no two of the scores are equal.
-/

namespace TangibleBlocks

namespace Tensor

variable {a k classes : Nat}

/-- The tensor that stores a table in a layout. -/
def store (layout : Layout) (table : Vector (Vector Binary32 k) a) : Tensor :=
  match layout with
  | .byAnchor => ofRows table
  | .byField => ofColumns (columns table)

/-- The table that a tensor stores: a row for every anchor. -/
def table (t : Tensor) (classes : Nat) : Vector (Vector Binary32 (boxFields + classes)) t.anchors :=
  .ofFn fun anchor => .ofFn fun field => t.field classes anchor field

/-- The tensor with its anchors in another order: what was stored for anchor `order i` is now stored
for anchor `i`. The rows change their places if it is stored row by row, and the entries of every
column if it is stored column by column. -/
def reordered (t : Tensor) (classes : Nat) (order : Equiv.Perm (Fin t.anchors)) : Tensor :=
  store t.layout (.ofFn fun anchor => (t.table classes)[order anchor])

theorem anchors_store (layout : Layout) (table : Vector (Vector Binary32 k) a) :
    (store layout table).anchors = a := by
  cases layout <;> rfl

theorem fits_store_iff {layout : Layout}
    {table : Vector (Vector Binary32 (boxFields + classes)) a} :
    (store layout table).Fits classes ↔ 0 < a := by
  cases layout with
  | byAnchor => exact fits_ofRows_iff
  | byField => exact fits_ofColumns_iff

theorem field_store (layout : Layout) (table : Vector (Vector Binary32 (boxFields + classes)) a)
    {anchor field : Nat} (ha : anchor < a) (hf : field < boxFields + classes) :
    (store layout table).field classes anchor field = table[anchor][field] := by
  cases layout with
  | byAnchor => exact field_ofRows table ha hf
  | byField => exact (field_ofColumns (columns table) ha hf).trans (getElem_columns table ha hf)

/-- Cutting data into pieces of one length and joining these yields the data. -/
theorem toArray_flatten_ofFn {n m : Nat} {data : Array Binary32} (hdata : data.size = n * m) :
    (Vector.ofFn fun i : Fin n => Vector.ofFn fun j : Fin m =>
      data.getD (i * m + j) .zero).flatten.toArray = data := by
  refine Array.ext (by rw [Vector.size_toArray, hdata]) fun place h h' => ?_
  rw [Vector.getElem_toArray, Vector.getElem_flatten (by omega)]
  simp only [Vector.getElem_ofFn]
  rw [Nat.div_add_mod', Array.getD_eq_getD_getElem?, Array.getElem?_eq_getElem h', Option.getD_some]

/-- A tensor that fits is nothing but the table that it stores. -/
theorem store_table {t : Tensor} (hfits : t.Fits classes) :
    store t.layout (t.table classes) = t := by
  obtain ⟨data, anchors, layout⟩ := t
  obtain ⟨-, hsize⟩ := hfits
  cases layout with
  | byAnchor => exact congrArg (Tensor.mk · anchors .byAnchor) (toArray_flatten_ofFn hsize)
  | byField =>
      -- The columns of the table are the pieces of the data, one for each field.
      have hcolumns : columns (table ⟨data, anchors, .byField⟩ classes) =
          .ofFn fun field => .ofFn fun anchor => data.getD (field * anchors + anchor) .zero := by
        ext field hf anchor ha
        rw [getElem_columns _ ha hf]
        simp [table, Tensor.field, index]
      have hsize' : data.size = (boxFields + classes) * anchors := hsize.trans (Nat.mul_comm _ _)
      rw [store, ofColumns, hcolumns]
      exact congrArg (Tensor.mk · anchors .byField) (toArray_flatten_ofFn hsize')

theorem candidates_store (layout : Layout) {v : Vocabulary}
    (table : Vector (Vector Binary32 (boxFields + v.size)) a) (threshold : Binary32) :
    (store layout table).candidates v threshold =
      (List.finRange a).filterMap fun anchor : Fin a =>
        (store layout table).candidate? v threshold anchor := by
  by_cases ha : 0 < a
  · rw [candidates, if_pos (fits_store_iff.mpr ha), anchors_store, ← List.map_coe_finRange_eq_range,
      List.filterMap_map]
    rfl
  · obtain rfl : a = 0 := by omega
    rw [candidates, if_neg (fits_store_iff.not.mpr ha)]
    rfl

theorem candidate?_reordered {t : Tensor} {v : Vocabulary} (hfits : t.Fits v.size)
    (order : Equiv.Perm (Fin t.anchors)) (threshold : Binary32) (anchor : Fin t.anchors) :
    (t.reordered v.size order).candidate? v threshold anchor =
      t.candidate? v threshold (order anchor) := by
  have hrow : (t.reordered v.size order).candidate? v threshold anchor =
      (store t.layout (t.table v.size)).candidate? v threshold (order anchor) := by
    refine candidate?_congr fun field hf => ?_
    rw [reordered, field_store _ _ anchor.isLt hf, field_store _ _ (order anchor).isLt hf,
      Vector.getElem_ofFn]
    rfl
  rw [hrow, store_table hfits]

/-- If the anchors of a tensor are put into another order, so are its candidates. -/
theorem perm_candidates_reordered {t : Tensor} {v : Vocabulary} (hfits : t.Fits v.size)
    (order : Equiv.Perm (Fin t.anchors)) (threshold : Binary32) :
    ((t.reordered v.size order).candidates v threshold).Perm (t.candidates v threshold) := by
  have hbefore : t.candidates v threshold =
      (List.finRange t.anchors).filterMap fun anchor : Fin t.anchors =>
        t.candidate? v threshold anchor := by
    have h := candidates_store t.layout (t.table v.size) threshold
    rwa [store_table hfits] at h
  have hafter : (t.reordered v.size order).candidates v threshold =
      ((List.finRange t.anchors).map order).filterMap fun anchor : Fin t.anchors =>
        t.candidate? v threshold anchor := by
    rw [reordered, candidates_store, List.filterMap_map]
    exact List.filterMap_congr fun anchor _ => candidate?_reordered hfits order threshold anchor
  rw [hbefore, hafter]
  exact order.map_finRange_perm.filterMap _

end Tensor

namespace Detection

/-- Boxes with different scores are considered in one order only, and so the same ones are kept. -/
theorem suppress_eq_of_perm {items others : List Detection} (threshold : Binary32)
    (hperm : others.Perm items)
    (hscores : items.Pairwise fun a b => a.score.rank ≠ b.score.rank) :
    suppress others threshold = suppress items threshold := by
  have hnodup : (items.map fun d => d.score.rank).Nodup := List.pairwise_map.mpr hscores
  -- Boxes tie only if their scores are equal, and no two are.
  have hsorted : sorted others = sorted items := by
    refine comparison_atLeast.mergeSort_eq_of_perm hperm fun a ha b hb htie => ?_
    rw [tied_atLeast, decide_eq_true_eq] at htie
    refine List.inj_on_of_nodup_map hnodup (hperm.subset ha) (hperm.subset hb) ?_
    rw [htie]
  rw [suppress, suppress, hsorted]

end Detection

namespace Detector

/-- A detector sees the same blocks, in the same order, in whatever order the anchors of a tensor
are, if no two candidates have the same score. -/
theorem infer_reordered (d : Detector) {t : Tensor} (hfits : t.Fits d.vocabulary.size)
    (hscores : (d.candidates t).Pairwise fun a b => a.score.rank ≠ b.score.rank)
    (order : Equiv.Perm (Fin t.anchors)) :
    d.infer (t.reordered d.vocabulary.size order) = d.infer t :=
  Detection.suppress_eq_of_perm d.overlapThreshold
    (Tensor.perm_candidates_reordered hfits order d.scoreThreshold) hscores

/-- Two boxes in the same place with the scores `-0` and `+0`, and one with an infinite score,
stored column by column. The first and the last anchor change places. -/
theorem infer_reordered_swap :
    let d : Detector := ⟨⟨#[.walk], by decide⟩, .lowest, usualOverlap⟩
    let t : Tensor :=
      ⟨#[.zero, .zero, .hundred, .zero, .zero, .two, .two, .two, .two, .two, .two, .two,
        ⟨0x80000000⟩, .zero, .infinity], 3, .byField⟩
    let order : Equiv.Perm (Fin 3) := Equiv.swap 0 2
    t.Fits d.vocabulary.size ∧
      ((d.candidates t).Pairwise fun a b => a.score.rank ≠ b.score.rank) ∧
      (t.reordered d.vocabulary.size order).data =
        #[.hundred, .zero, .zero, .two, .zero, .zero, .two, .two, .two, .two, .two, .two,
          .infinity, .zero, ⟨0x80000000⟩] ∧
      d.infer (t.reordered d.vocabulary.size order) = d.infer t := by
  intro d t order
  have hfits : t.Fits d.vocabulary.size := by decide
  have hscores : (d.candidates t).Pairwise fun a b => a.score.rank ≠ b.score.rank := by decide
  exact ⟨hfits, hscores, by decide +kernel, infer_reordered d hfits hscores order⟩

end Detector

end TangibleBlocks
