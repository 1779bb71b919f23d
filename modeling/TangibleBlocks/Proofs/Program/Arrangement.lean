import TangibleBlocks.Program.Compiler
import TangibleBlocks.Proofs.Program.Splitting

/-!
Where the blocks are decides, not which of them was detected first.
-/

namespace TangibleBlocks

namespace Detection

/-! ### Heights -/

theorem centerY_eq_of_higher {a b : Detection} (hab : higher a b = true) (hba : higher b a = true) :
    a.centerY = b.centerY :=
  Binary32.rank_injective (Nat.le_antisymm (of_decide_eq_true hab) (of_decide_eq_true hba))

theorem centerX_eq_of_fartherLeft {a b : Detection} (hab : fartherLeft a b = true)
    (hba : fartherLeft b a = true) : a.centerX = b.centerX :=
  Binary32.rank_injective (Nat.le_antisymm (of_decide_eq_true hab) (of_decide_eq_true hba))

/-- Boxes at the same height are in line with the same boxes. -/
theorem inLineOf_eq_of_tied {tolerance : Binary32} (head a b : Detection)
    (h : Sorting.tied higher a b = true) :
    inLineOf tolerance head a = inLineOf tolerance head b := by
  obtain ⟨hab, hba⟩ := Bool.and_eq_true_iff.mp h
  rw [inLineOf, inLineOf, centerY_eq_of_higher hab hba]

/-! ### Lines of two arrangements -/

/-- If every box is in line with itself, a line is what stands in front up to the first box that is
not in line with the first one. -/
theorem cut_eq_of_inLineOf_self {tolerance : Binary32} {head : Detection} {rest : List Detection}
    (h : inLineOf tolerance head head = true) :
    cut tolerance (head :: rest) =
      (head :: rest).takeWhile (inLineOf tolerance head) ::
        cut tolerance ((head :: rest).dropWhile (inLineOf tolerance head)) := by
  rw [cut_cons, List.takeWhile_cons_of_pos h, List.dropWhile_cons_of_pos h]

/-- No two of the given boxes are at the same place. -/
def Apart (items : List Detection) : Prop :=
  ∀ a ∈ items, ∀ b ∈ items, a.centerX = b.centerX → a.centerY = b.centerY → a = b

theorem Apart.sublist {s t : List Detection} (h : Apart t) (hst : s.Sublist t) : Apart s :=
  fun a ha b hb => h a (hst.subset ha) b (hst.subset hb)

/-- Boxes that are sorted from top to bottom and then from left to right are in one order only. -/
theorem mergeSort_fartherLeft_eq_of_perm {s t : List Detection} (hst : s.Perm t)
    (hs : s.Pairwise fun a b => higher a b = true) (ht : t.Pairwise fun a b => higher a b = true)
    (hplaces : Apart s) : s.mergeSort fartherLeft = t.mergeSort fartherLeft := by
  have hsorted := comparison_fartherLeft.stableSort_mergeSort s
  have hsorted' := comparison_fartherLeft.stableSort_mergeSort t
  have hperm := hsorted.perm.trans (hst.trans hsorted'.perm.symm)
  refine hperm.eq_of_pairwise ?_ (hsorted.ordered_of_ordered comparison_fartherLeft hs)
    (hsorted'.ordered_of_ordered comparison_fartherLeft ht)
  rintro a b ha hb ⟨hab, hab'⟩ ⟨hba, hba'⟩
  have hb' : b ∈ s := hsorted.perm.mem_iff.mp (hperm.mem_iff.mpr hb)
  apply hplaces a (hsorted.perm.mem_iff.mp ha) b hb'
  · exact centerX_eq_of_fartherLeft hab hba
  · exact centerY_eq_of_higher (hab' hba) (hba' hab)

/-- Two arrangements of the same boxes, each sorted from top to bottom, have the same lines. -/
theorem map_cut_eq_of_perm {tolerance : Binary32} {s t : List Detection} (hst : s.Perm t)
    (hs : s.Pairwise fun a b => higher a b = true) (ht : t.Pairwise fun a b => higher a b = true)
    (hself : ∀ d ∈ s, inLineOf tolerance d d = true) (hplaces : Apart s) :
    (cut tolerance s).map (fun row => row.mergeSort fartherLeft) =
      (cut tolerance t).map fun row => row.mergeSort fartherLeft := by
  induction s using cut.induct tolerance generalizing t with
  | case1 => rw [hst.nil_eq]
  | case2 head rest ih =>
      cases t with
      | nil => exact absurd hst.eq_nil (List.cons_ne_nil head rest)
      | cons first others =>
          -- The first boxes may differ, but they are at the same height.
          have hmem : first ∈ head :: rest := hst.mem_iff.mpr List.mem_cons_self
          have hmem' : head ∈ first :: others := hst.mem_iff.mp List.mem_cons_self
          have hheight : first.centerY = head.centerY :=
            centerY_eq_of_higher (comparison_higher.le_of_mem_cons ht hmem')
              (comparison_higher.le_of_mem_cons hs hmem)
          have hline : inLineOf tolerance first = inLineOf tolerance head := by
            funext d
            rw [inLineOf, inLineOf, hheight]
          have hfront := List.takeWhile_sublist (inLineOf tolerance head) (l := head :: rest)
          have hbehind := List.dropWhile_sublist (inLineOf tolerance head) (l := head :: rest)
          have hties : ∀ a b, Sorting.tied higher a b = true →
              inLineOf tolerance head a = inLineOf tolerance head b := inLineOf_eq_of_tied head
          rw [cut_eq_of_inLineOf_self (hself head List.mem_cons_self),
            cut_eq_of_inLineOf_self (hself first hmem), hline, List.map_cons, List.map_cons]
          congr 1
          · have hperm := comparison_higher.perm_takeWhile hties hs ht hst
            exact mergeSort_fartherLeft_eq_of_perm hperm (hs.sublist hfront)
              (ht.sublist (List.takeWhile_sublist _)) (hplaces.sublist hfront)
          · have hperm := comparison_higher.perm_dropWhile hties hs ht hst
            rw [List.dropWhile_cons_of_pos (hself head List.mem_cons_self)] at hperm hbehind ⊢
            exact ih hperm (hs.sublist hbehind) (ht.sublist (List.dropWhile_sublist _))
              (fun d hd => hself d (hbehind.subset hd)) (hplaces.sublist hbehind)

theorem Apart.of_pairwise {items : List Detection}
    (h : items.Pairwise fun a b =>
      ¬ (a.centerX.rank = b.centerX.rank ∧ a.centerY.rank = b.centerY.rank)) : Apart items := by
  induction items with
  | nil =>
      intro a ha
      exact absurd ha List.not_mem_nil
  | cons d rest ih =>
      obtain ⟨hfirst, hrest⟩ := List.pairwise_cons.mp h
      intro a ha b hb hx hy
      rcases List.mem_cons.mp ha with rfl | ha' <;> rcases List.mem_cons.mp hb with rfl | hb'
      · rfl
      · exact absurd ⟨by rw [hx], by rw [hy]⟩ (hfirst b hb')
      · exact absurd ⟨by rw [hx], by rw [hy]⟩ (hfirst a ha')
      · exact ih hrest a ha' b hb' hx hy

theorem rows_eq_of_perm {items others : List Detection} {tolerance : Binary32}
    (hperm : others.Perm items) (hself : ∀ d ∈ items, inLineOf tolerance d d = true)
    (hplaces : Apart items) : rows others tolerance = rows items tolerance := by
  have hs := comparison_higher.stableSort_mergeSort items
  have ht := comparison_higher.stableSort_mergeSort others
  have hst := hs.perm.trans (hperm.symm.trans ht.perm.symm)
  refine (map_cut_eq_of_perm hst hs.ordered ht.ordered (fun d hd => ?_) ?_).symm
  · exact hself d (hs.perm.mem_iff.mp hd)
  · exact fun a ha b hb => hplaces a (hs.perm.mem_iff.mp ha) b (hs.perm.mem_iff.mp hb)

end Detection

namespace Compiler

/-- What was detected first makes no difference to the lines and to the program, if no two boxes are
at the same place and every box is near itself: its height is a finite number and the tolerance is
positive. -/
theorem compile_eq_of_perm (k : Compiler) {items others : List Detection}
    (hperm : others.Perm items)
    (hplaces : items.Pairwise fun a b =>
      ¬ (a.centerX.rank = b.centerX.rank ∧ a.centerY.rank = b.centerY.rank))
    (hself : ∀ d ∈ items, (d.centerY - d.centerY).abs < k.lineTolerance) :
    Detection.rows others k.lineTolerance = Detection.rows items k.lineTolerance ∧
      k.compile others = k.compile items := by
  have hrows : Detection.rows others k.lineTolerance = Detection.rows items k.lineTolerance :=
    Detection.rows_eq_of_perm hperm (fun d hd => Detection.inLineOf_iff.mpr (hself d hd))
      (Detection.Apart.of_pairwise hplaces)
  refine ⟨hrows, ?_⟩
  rw [compile, compile, lines, lines, hrows]

/-- Two boxes at the same height, two in the same column of one line, and a line below. -/
theorem compile_reverse_table :
    let box (x y : Binary32) (b : Block) : Detection := ⟨x, y, .two, .two, .zero, 0, b⟩
    let items := [box .zero .hundred .walk, box .two .hundred (.digit 3),
      box .zero ⟨0x42dc0000⟩ (.arrow .up), box .two ⟨0x43480000⟩ .jump]
    items.reverse.Perm items ∧
      (items.Pairwise fun a b =>
        ¬ (a.centerX.rank = b.centerX.rank ∧ a.centerY.rank = b.centerY.rank)) ∧
      (∀ d ∈ items, (d.centerY - d.centerY).abs < standard.lineTolerance) ∧
      Detection.rows items.reverse standard.lineTolerance =
        Detection.rows items standard.lineTolerance ∧
      standard.compile items.reverse = standard.compile items :=
  ⟨List.reverse_perm _, by decide, by decide,
    compile_eq_of_perm standard (List.reverse_perm _) (by decide) (by decide)⟩

end Compiler

end TangibleBlocks
