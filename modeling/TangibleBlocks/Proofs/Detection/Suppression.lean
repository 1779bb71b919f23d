import Mathlib.Data.List.Perm.Subperm
import Mathlib.Data.List.Sort
import TangibleBlocks.Detection.Suppression
import TangibleBlocks.Proofs.Sorting.Stable

/-!
What suppression keeps. The sweep of `keep` compares every box with all that have
been kept before. Two descriptions are compared with it. The sieve takes the first
box that is left and throws away what is not clear of it. A selection does not
speak of an order of work at all: no selected box lies on one selected before it,
and every other box does. There is exactly one selection from a list.
-/

namespace TangibleBlocks.Detection

/-! ### The order of the boxes -/

theorem comparison_atLeast : Sorting.Comparison atLeast :=
  (Sorting.Comparison.ofRank fun d : Detection => d.score.rank).reverse

theorem stableSort_sorted (items : List Detection) :
    Sorting.StableSort atLeast items (sorted items) :=
  comparison_atLeast.stableSort_mergeSort items

/-- Boxes tie exactly if they have the same score, with the same bits. -/
theorem tied_atLeast (d e : Detection) : Sorting.tied atLeast d e = decide (e.score = d.score) := by
  rw [Bool.eq_iff_iff, decide_eq_true_eq, Sorting.tied, Bool.and_eq_true]
  simp only [atLeast, decide_eq_true_eq]
  constructor
  · rintro ⟨hle, hge⟩
    exact Binary32.rank_injective (Nat.le_antisymm hle hge)
  · intro h
    rw [h]
    exact ⟨Nat.le_refl _, Nat.le_refl _⟩

theorem keep_sublist (threshold : Binary32) (kept items : List Detection) :
    (keep threshold kept items).Sublist items := by
  induction items generalizing kept with
  | nil => exact List.Sublist.slnil
  | cons d items ih =>
      simp only [keep]
      split
      · exact (ih _).cons_cons d
      · exact (ih _).cons d

theorem suppress_sublist_sorted (items : List Detection) (threshold : Binary32) :
    (suppress items threshold).Sublist (sorted items) :=
  keep_sublist threshold [] (sorted items)

theorem pairwise_suppress (items : List Detection) (threshold : Binary32) :
    (suppress items threshold).Pairwise fun a b => b.score.rank ≤ a.score.rank := by
  have hordered := (stableSort_sorted items).ordered
  refine (hordered.sublist (suppress_sublist_sorted items threshold)).imp ?_
  intro a b hab
  exact of_decide_eq_true hab

/-- Of the boxes with one score, those kept are in the order given. -/
theorem filter_score_suppress (items : List Detection) (threshold x : Binary32) :
    ((suppress items threshold).filter fun d => decide (d.score = x)).Sublist
      (items.filter fun d => decide (d.score = x)) := by
  let d : Detection := { (default : Detection) with score := x }
  have htied : Sorting.tied atLeast d = fun e => decide (e.score = x) := funext (tied_atLeast d)
  rw [← htied, ← (stableSort_sorted items).stable d]
  exact (suppress_sublist_sorted items threshold).filter _

theorem suppress_subperm (items : List Detection) (threshold : Binary32) :
    (suppress items threshold).Subperm items :=
  (suppress_sublist_sorted items threshold).subperm.trans (stableSort_sorted items).perm.subperm

/-! ### The sieve -/

/-- The boxes whose overlap with a given one is within the threshold. -/
def clearOf (threshold : Binary32) (d : Detection) (items : List Detection) : List Detection :=
  items.filter fun e => decide (d.overlap e ≤ threshold)

theorem length_clearOf_le (threshold : Binary32) (d : Detection) (items : List Detection) :
    (clearOf threshold d items).length ≤ items.length :=
  List.length_filter_le _ _

/-- Keeps the first box, discards the others that are not clear of it, and goes on with what is
left. -/
def sieve (threshold : Binary32) : List Detection → List Detection
  | [] => []
  | d :: rest => d :: sieve threshold (clearOf threshold d rest)
  termination_by items => items.length
  decreasing_by exact Nat.lt_succ_of_le (length_clearOf_le threshold d rest)

theorem isFree_cons {threshold : Binary32} {k d : Detection} {kept : List Detection} :
    isFree threshold (k :: kept) d = true ↔
      k.overlap d ≤ threshold ∧ isFree threshold kept d = true := by
  simp [isFree]

theorem filter_isFree_cons (threshold : Binary32) (d : Detection) (kept items : List Detection) :
    items.filter (isFree threshold (d :: kept)) =
      clearOf threshold d (items.filter (isFree threshold kept)) := by
  rw [clearOf, List.filter_filter]
  rfl

/-- To compare every box with those kept before is to work on the boxes that are clear of these. -/
theorem keep_eq_sieve (threshold : Binary32) (kept items : List Detection) :
    keep threshold kept items = sieve threshold (items.filter (isFree threshold kept)) := by
  induction items generalizing kept with
  | nil => rw [List.filter_nil, keep, sieve]
  | cons d rest ih =>
      cases hd : isFree threshold kept d with
      | true =>
          rw [List.filter_cons_of_pos hd, keep, if_pos hd, sieve, ih, filter_isFree_cons]
      | false =>
          have hd' : ¬ isFree threshold kept d = true := by simp [hd]
          rw [List.filter_cons_of_neg hd', keep, if_neg hd', ih]

theorem suppress_eq_sieve (items : List Detection) (threshold : Binary32) :
    suppress items threshold = sieve threshold (sorted items) := by
  have hall : (sorted items).filter (isFree threshold []) = sorted items :=
    List.filter_eq_self.mpr fun _ _ => rfl
  rw [suppress, keep_eq_sieve, hall]

/-! ### Selections

A list may contain a box twice, so what is selected is given by places, not by boxes. -/

/-- Some places of a list from top to bottom, such that no box at one of them lies on a box at an
earlier one, and a box at any other place does. -/
structure Selection (threshold : Binary32) (items : List Detection)
    (places : List (Fin items.length)) : Prop where
  ascending : places.Pairwise (· < ·)
  apart : ∀ i ∈ places, ∀ j ∈ places, i < j → items[i].overlap items[j] ≤ threshold
  covered : ∀ j, j ∉ places → ∃ i ∈ places, i < j ∧ ¬ items[i].overlap items[j] ≤ threshold

/-- Whether the box at a place is free of the boxes kept before the list and of those at the given
places before it. -/
def FreeAt (threshold : Binary32) (kept items : List Detection) (places : List (Fin items.length))
    (j : Fin items.length) : Prop :=
  isFree threshold kept items[j] = true ∧
    ∀ i ∈ places, i < j → items[i].overlap items[j] ≤ threshold

theorem freeAt_succ {threshold : Binary32} {kept rest : List Detection} {d : Detection}
    {places : List (Fin rest.length)} {j : Fin rest.length} :
    FreeAt threshold kept (d :: rest) (places.map Fin.succ) j.succ ↔
      FreeAt threshold kept rest places j := by
  simp [FreeAt]

/-- A first place before the others counts as one more box kept before the list. -/
theorem freeAt_zero_cons_succ {threshold : Binary32} {kept rest : List Detection} {d : Detection}
    {places : List (Fin rest.length)} {j : Fin rest.length} :
    FreeAt threshold kept (d :: rest) (0 :: places.map Fin.succ) j.succ ↔
      FreeAt threshold (d :: kept) rest places j := by
  constructor
  · rintro ⟨hfree, hbefore⟩
    obtain ⟨hfirst, hrest⟩ := List.forall_mem_cons.mp hbefore
    exact ⟨isFree_cons.mpr ⟨hfirst j.succ_pos, hfree⟩, (freeAt_succ.mp ⟨hfree, hrest⟩).2⟩
  · rintro ⟨hfree, hbefore⟩
    obtain ⟨hfirst, hfree⟩ := isFree_cons.mp hfree
    have hrest : FreeAt threshold kept rest places j := ⟨hfree, hbefore⟩
    refine ⟨hfree, List.forall_mem_cons.mpr ⟨fun _ => hfirst, ?_⟩⟩
    exact (freeAt_succ.mpr hrest).2

theorem pairwise_map_succ {n : Nat} {places : List (Fin n)} (h : places.Pairwise (· < ·)) :
    (places.map Fin.succ).Pairwise (· < ·) :=
  List.pairwise_map.mpr (h.imp Fin.succ_lt_succ_iff.mpr)

theorem exists_places_of_keep (threshold : Binary32) (kept items : List Detection) :
    ∃ places : List (Fin items.length),
      keep threshold kept items = places.map (fun i => items[i]) ∧
      places.Pairwise (· < ·) ∧
      ∀ j, j ∈ places ↔ FreeAt threshold kept items places j := by
  induction items generalizing kept with
  | nil => exact ⟨[], rfl, List.Pairwise.nil, fun j => j.elim0⟩
  | cons d rest ih =>
      cases hd : isFree threshold kept d with
      | true =>
          obtain ⟨places, hkeep, hasc, hmem⟩ := ih (d :: kept)
          refine ⟨0 :: places.map Fin.succ, ?_, ?_, fun j => ?_⟩
          · rw [keep, if_pos hd, hkeep, List.map_cons, List.map_map]
            rfl
          · exact List.pairwise_cons.mpr ⟨by simp, pairwise_map_succ hasc⟩
          · cases j using Fin.cases with
            | zero => simp [FreeAt, hd]
            | succ j =>
                rw [freeAt_zero_cons_succ, ← hmem j]
                simp
      | false =>
          obtain ⟨places, hkeep, hasc, hmem⟩ := ih kept
          refine ⟨places.map Fin.succ, ?_, pairwise_map_succ hasc, fun j => ?_⟩
          · rw [keep, if_neg (by simp [hd]), hkeep, List.map_map]
            rfl
          · cases j using Fin.cases with
            | zero => simp [FreeAt, hd]
            | succ j =>
                rw [freeAt_succ, ← hmem j]
                simp

theorem exists_selection (threshold : Binary32) (items : List Detection) :
    ∃ places, Selection threshold items places ∧
      keep threshold [] items = places.map fun i => items[i] := by
  obtain ⟨places, hkeep, hasc, hmem⟩ := exists_places_of_keep threshold [] items
  refine ⟨places, ⟨hasc, ?_, ?_⟩, hkeep⟩
  · intro i hi j hj hij
    exact ((hmem j).mp hj).2 i hi hij
  · intro j hj
    by_contra hnone
    apply hj
    refine (hmem j).mpr ⟨rfl, fun i hi hij => ?_⟩
    by_contra hover
    exact hnone ⟨i, hi, hij, hover⟩

namespace Selection

variable {threshold : Binary32} {items : List Detection} {places others : List (Fin items.length)}

theorem mem_of_mem (h : Selection threshold items places) (h' : Selection threshold items others)
    {j : Fin items.length} (hbefore : ∀ i < j, i ∈ others → i ∈ places) (hj : j ∈ places) :
    j ∈ others := by
  by_contra hout
  obtain ⟨i, hi, hij, hover⟩ := h'.covered j hout
  exact hover (h.apart i (hbefore i hij hi) j hj hij)

/-- Two selections agree at every place, since they agree at all places before it. -/
theorem mem_iff (h : Selection threshold items places) (h' : Selection threshold items others)
    (j : Fin items.length) : j ∈ places ↔ j ∈ others := by
  induction j using WellFoundedLT.induction with
  | ind j ih =>
      constructor
      · exact h.mem_of_mem h' fun i hij => (ih i hij).mpr
      · exact h'.mem_of_mem h fun i hij => (ih i hij).mp

theorem eq (h : Selection threshold items places) (h' : Selection threshold items others) :
    places = others :=
  h.ascending.eq_of_mem_iff h'.ascending (h.mem_iff h')

end Selection

/-- Suppression is the sieve, applied to the boxes in descending order of their scores, equal scores
in the order given. What it keeps is the one selection from the list in this order. It is in this
order too and contains nothing that has not been given.

The fields of the boxes may be any numbers, and nothing is assumed about the overlap. -/
theorem suppress_eq_selection (items : List Detection) (threshold : Binary32) :
    (∀ s, Sorting.StableSort atLeast items s ↔ s = sorted items) ∧
      suppress items threshold = sieve threshold (sorted items) ∧
      (∃! places, Selection threshold (sorted items) places) ∧
      (∀ places, Selection threshold (sorted items) places →
        suppress items threshold = places.map fun i => (sorted items)[i]) ∧
      (suppress items threshold).Pairwise (fun a b => b.score.rank ≤ a.score.rank) ∧
      (∀ x : Binary32, ((suppress items threshold).filter fun d => decide (d.score = x)).Sublist
        (items.filter fun d => decide (d.score = x))) ∧
      (suppress items threshold).Subperm items := by
  obtain ⟨places, hplaces, hkeep⟩ := exists_selection threshold (sorted items)
  refine ⟨?_, suppress_eq_sieve items threshold, ?_, ?_, pairwise_suppress items threshold,
    filter_score_suppress items threshold, suppress_subperm items threshold⟩
  · intro s
    exact comparison_atLeast.stableSort_iff
  · exact ⟨places, hplaces, fun others h => h.eq hplaces⟩
  · intro others h
    rw [h.eq hplaces]
    exact hkeep

/-- A box that only lies on one that is discarded is kept. -/
example :
    let box (x : Binary32) : Detection := ⟨x, .zero, .hundred, .hundred, .zero, 0, .walk⟩
    let a := box .zero
    let b := box ⟨0x42480000⟩
    let c := box .hundred
    keep ⟨0x3e800000⟩ [] [a, b, c] = [a, c] := by decide +kernel

end TangibleBlocks.Detection
