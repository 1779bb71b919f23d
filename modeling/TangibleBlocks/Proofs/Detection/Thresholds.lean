import TangibleBlocks.Detection.Detector
import TangibleBlocks.Proofs.Detection.Scores
import TangibleBlocks.Proofs.Detection.Suppression

/-!
Two score thresholds for one tensor. A candidate never has a NaN for a score, so
the candidates above the higher threshold stand in front once all are sorted, and
whether a box is kept depends on the boxes in front of it only. What the higher
threshold leaves out makes no difference to the rest.
-/

namespace TangibleBlocks

/-! ### Scores of candidates -/

namespace Tensor

theorem isNaN_score_of_mem_candidates {t : Tensor} {v : Vocabulary} {threshold : Binary32}
    {d : Detection} (h : d ∈ t.candidates v threshold) : d.score.isNaN = false := by
  obtain ⟨anchor, -, hd⟩ := exists_of_mem_candidates h
  exact isNaN_score_of_candidate? hd

theorem candidate?_filter (t : Tensor) (v : Vocabulary) {low high : Binary32} (hle : low ≤ high)
    (anchor : Nat) :
    (t.candidate? v low anchor).filter (fun d => decide (high < d.score)) =
      t.candidate? v high anchor := by
  have hbest := t.isNaN_best v.size anchor
  obtain ⟨hlow, hhigh, -⟩ := Binary32.le_iff.mp hle
  simp only [candidate?]
  by_cases habove : high < (t.best v.size anchor).1
  · have hlow' := (Binary32.not_le_iff_lt hbest hlow).mpr (Binary32.lt_of_le_of_lt hle habove)
    have hhigh' := (Binary32.not_le_iff_lt hbest hhigh).mpr habove
    rw [if_neg hlow', if_neg hhigh', Option.filter_map]
    cases v.block? (t.best v.size anchor).2 <;> simp [habove]
  · rw [if_pos ((Binary32.not_lt_iff_le hhigh hbest).mp habove)]
    split
    · rfl
    · cases v.block? (t.best v.size anchor).2 <;> simp [habove]

/-- The candidates above a threshold are those of a lower one that are above it. -/
theorem candidates_filter (t : Tensor) (v : Vocabulary) {low high : Binary32} (hle : low ≤ high) :
    (t.candidates v low).filter (fun d => decide (high < d.score)) = t.candidates v high := by
  unfold candidates
  split
  · rw [List.filter_filterMap]
    congr 1
    funext anchor
    exact t.candidate?_filter v hle anchor
  · rfl

end Tensor

/-! ### Suppression -/

namespace Detection

/-- Of boxes with those that satisfy a condition in front, the same ones of these are kept with and
without the others. -/
theorem keep_filter (threshold : Binary32) (q : Detection → Bool) {items : List Detection}
    (hq : items.Pairwise fun a b => q b = true → q a = true) (kept : List Detection) :
    keep threshold kept (items.filter q) = (keep threshold kept items).filter q := by
  induction items generalizing kept with
  | nil => rfl
  | cons d items ih =>
      obtain ⟨hfirst, hrest⟩ := List.pairwise_cons.mp hq
      cases hd : q d with
      | true =>
          rw [List.filter_cons_of_pos hd]
          simp only [keep]
          split
          · rw [List.filter_cons_of_pos hd, ih hrest]
          · exact ih hrest kept
      | false =>
          -- None of the boxes from here on satisfies the condition.
          have hnone : (d :: items).filter q = [] := by
            refine List.filter_eq_nil_iff.mpr fun b hb hqb => ?_
            rcases List.mem_cons.mp hb with rfl | hb
            · simp [hd] at hqb
            · simp [hfirst b hb hqb] at hd
          rw [hnone]
          refine (List.filter_eq_nil_iff.mpr fun b hb => ?_).symm
          exact List.filter_eq_nil_iff.mp hnone b ((keep_sublist threshold kept _).subset hb)

/-- A condition on boxes that only depends on how far in front they are may be checked before or
after the suppression. -/
theorem suppress_filter (threshold : Binary32) (q : Detection → Bool) {items : List Detection}
    (hq : ∀ a ∈ items, ∀ b, atLeast a b = true → q b = true → q a = true) :
    suppress (items.filter q) threshold = (suppress items threshold).filter q := by
  have hsorted := comparison_atLeast.stableSort_mergeSort items
  have hfront : (sorted items).Pairwise fun a b => q b = true → q a = true :=
    hsorted.ordered.imp_of_mem fun ha _ hab => hq _ (hsorted.perm.mem_iff.mp ha) _ hab
  rw [suppress, sorted, Sorting.mergeSort_filter comparison_atLeast]
  exact keep_filter threshold q hfront []

end Detection

namespace Detector

/-- With a higher score threshold a detector sees the same blocks, but for those with scores that
do not exceed it, and in the same order. -/
theorem infer_filter (d : Detector) (t : Tensor) {low high : Binary32} (hle : low ≤ high) :
    { d with scoreThreshold := high }.infer t =
      ({ d with scoreThreshold := low }.infer t).filter fun b => decide (high < b.score) := by
  simp only [infer, candidates]
  -- The candidates agree, and what is above the threshold is in front of what is not.
  rw [← Tensor.candidates_filter t d.vocabulary hle]
  refine Detection.suppress_filter _ _ fun a ha b hab hb => ?_
  simp only [Detection.atLeast, decide_eq_true_eq] at hab hb ⊢
  exact Binary32.lt_of_lt_of_rank_le hb hab (Tensor.isNaN_score_of_mem_candidates ha)

/-- A tensor with a box between the two thresholds, one at the higher threshold and one above it. -/
theorem infer_filter_capture :
    let d := ofVocabulary ⟨#[.walk], by decide⟩
    let box (score : Binary32) : Array Binary32 := #[.hundred, .hundred, .two, .two, score]
    let t : Tensor := ⟨box ⟨0x3e99999a⟩ ++ box captureThreshold ++ box ⟨0x3f000000⟩, 3, .byAnchor⟩
    previewThreshold ≤ captureThreshold ∧
      { d with scoreThreshold := captureThreshold }.infer t =
        ({ d with scoreThreshold := previewThreshold }.infer t).filter
          fun b => decide (captureThreshold < b.score) :=
  ⟨by decide, infer_filter _ _ (by decide)⟩

end Detector

end TangibleBlocks
