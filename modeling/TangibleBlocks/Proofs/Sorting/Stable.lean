/-!
Stable sorting. A list has one stable sort only: its elements in order, and those
that tie in the order given. Sorting therefore goes together with leaving
elements out, and sorting twice orders by the last comparison and then by the one
before it. Of two arrangements of the same elements, the sorted forms begin with
the same elements, though perhaps not in the same order.
-/

namespace TangibleBlocks.Sorting

variable {α : Type} {le : α → α → Bool}

/-- A comparison by which every list can be sorted. Elements may tie. -/
structure Comparison (le : α → α → Bool) : Prop where
  trans : ∀ a b c, le a b = true → le b c = true → le a c = true
  total : ∀ a b, (le a b || le b a) = true

/-- Whether two elements may stand in either order. -/
def tied (le : α → α → Bool) (a b : α) : Bool :=
  le a b && le b a

/-- A list in order, with elements that tie in the order in which they stand in another list. -/
structure StableSort (le : α → α → Bool) (l sorted : List α) : Prop where
  perm : sorted.Perm l
  ordered : sorted.Pairwise fun a b => le a b = true
  stable : ∀ a, sorted.filter (tied le a) = l.filter (tied le a)

namespace Comparison

theorem ofRank (rank : α → Nat) : Comparison fun a b => decide (rank a ≤ rank b) where
  trans := by
    intro a b c hab hbc
    simp only [decide_eq_true_eq] at hab hbc ⊢
    omega
  total := by
    intro a b
    simp only [Bool.or_eq_true, decide_eq_true_eq]
    omega

theorem reverse (hle : Comparison le) : Comparison fun a b => le b a :=
  ⟨fun a b c hab hbc => hle.trans c b a hbc hab, fun a b => hle.total b a⟩

theorem refl (hle : Comparison le) (a : α) : le a a = true := by
  simpa using hle.total a a

theorem tied_self (hle : Comparison le) (a : α) : tied le a a = true := by
  simp [tied, hle.refl a]

/-- Elements that tie with a third one are in order as they stand. -/
theorem ordered_filter_tied (hle : Comparison le) (a : α) (l : List α) :
    (l.filter (tied le a)).Pairwise fun b c => le b c = true := by
  rw [List.pairwise_iff_forall_sublist]
  intro b c hbc
  have hb : tied le a b = true := (List.mem_filter.mp (hbc.subset (by simp))).2
  have hc : tied le a c = true := (List.mem_filter.mp (hbc.subset (by simp))).2
  simp only [tied, Bool.and_eq_true] at hb hc
  exact hle.trans b a c hb.2 hc.1

theorem stableSort_mergeSort (hle : Comparison le) (l : List α) :
    StableSort le l (l.mergeSort le) where
  perm := List.mergeSort_perm l le
  ordered := List.pairwise_mergeSort hle.trans hle.total l
  stable := by
    intro a
    have hsub : (l.filter (tied le a)).Sublist ((l.mergeSort le).filter (tied le a)) := by
      have h := List.sublist_mergeSort hle.trans hle.total (hle.ordered_filter_tied a l)
        List.filter_sublist
      simpa [List.filter_filter] using h.filter (tied le a)
    -- Nothing is lost, so a sublist is all there is.
    refine (hsub.eq_of_length ?_).symm
    exact ((List.mergeSort_perm l le).filter (tied le a)).length_eq.symm

theorem mem_iff_of_filter_tied (hle : Comparison le) {s t : List α}
    (h : ∀ a, s.filter (tied le a) = t.filter (tied le a)) (a : α) : a ∈ s ↔ a ∈ t := by
  have ha : a ∈ s.filter (tied le a) ↔ a ∈ t.filter (tied le a) := by rw [h a]
  simpa [List.mem_filter, hle.tied_self a] using ha

theorem le_of_mem_cons (hle : Comparison le) {a b : α} {s : List α}
    (hs : (a :: s).Pairwise fun a b => le a b = true) (hb : b ∈ a :: s) : le a b = true := by
  rcases List.mem_cons.mp hb with rfl | hb
  · exact hle.refl b
  · exact (List.pairwise_cons.mp hs).1 b hb

/-- Two lists in order are equal if they agree on the elements that tie with any given one. -/
theorem eq_of_ordered (hle : Comparison le) {s t : List α}
    (hs : s.Pairwise fun a b => le a b = true) (ht : t.Pairwise fun a b => le a b = true)
    (h : ∀ a, s.filter (tied le a) = t.filter (tied le a)) : s = t := by
  have hmem := hle.mem_iff_of_filter_tied h
  induction s generalizing t with
  | nil =>
      cases t with
      | nil => rfl
      | cons b t => exact absurd ((hmem b).mpr List.mem_cons_self) List.not_mem_nil
  | cons a s ih =>
      cases t with
      | nil => exact absurd ((hmem a).mp List.mem_cons_self) List.not_mem_nil
      | cons b t =>
          -- The first elements tie, so they are the first ones of the same ties.
          have hab := hle.le_of_mem_cons hs ((hmem b).mpr List.mem_cons_self)
          have hba := hle.le_of_mem_cons ht ((hmem a).mp List.mem_cons_self)
          have hhead := h a
          rw [List.filter_cons_of_pos (hle.tied_self a),
            List.filter_cons_of_pos (by simp [tied, hab, hba])] at hhead
          obtain rfl : a = b := (List.cons.inj hhead).1
          have htail (c : α) : s.filter (tied le c) = t.filter (tied le c) := by
            have hc := h c
            simp only [List.filter_cons] at hc
            split at hc
            · exact (List.cons.inj hc).2
            · exact hc
          rw [ih (List.pairwise_cons.mp hs).2 (List.pairwise_cons.mp ht).2 htail
            (hle.mem_iff_of_filter_tied htail)]

end Comparison

namespace StableSort

variable {l s t : List α}

/-- A list has one stable sort only. -/
theorem eq (hle : Comparison le) (hs : StableSort le l s) (ht : StableSort le l t) : s = t :=
  hle.eq_of_ordered hs.ordered ht.ordered fun a => (hs.stable a).trans (ht.stable a).symm

theorem filter (h : StableSort le l s) (q : α → Bool) :
    StableSort le (l.filter q) (s.filter q) where
  perm := h.perm.filter q
  ordered := h.ordered.filter q
  stable := by
    intro a
    have hcomm (m : List α) :
        (m.filter q).filter (tied le a) = (m.filter (tied le a)).filter q := by
      simp only [List.filter_filter, Bool.and_comm]
    rw [hcomm, hcomm, h.stable a]

/-- Sorting by one thing what is in order by another puts it in order by both: what ties by the
first is in order by the second. -/
theorem ordered_of_ordered (hle : Comparison le) (hs : StableSort le l s) {r : α → α → Prop}
    (hl : l.Pairwise r) : s.Pairwise fun a b => le a b = true ∧ (le b a = true → r a b) := by
  rw [List.pairwise_iff_forall_sublist]
  intro a b hab
  have hle_ab : le a b = true := List.pairwise_iff_forall_sublist.mp hs.ordered hab
  refine ⟨hle_ab, fun hle_ba => ?_⟩
  -- Two elements that tie stand in the sorted list as they did in the given one.
  have hties : [a, b].filter (tied le a) = [a, b] := by
    simp [tied, hle.refl a, hle_ab, hle_ba]
  have hsub : [a, b].Sublist (l.filter (tied le a)) := by
    rw [← hs.stable a, ← hties]
    exact hab.filter (tied le a)
  exact List.pairwise_iff_forall_sublist.mp hl (hsub.trans List.filter_sublist)

end StableSort

theorem Comparison.stableSort_iff (hle : Comparison le) {l s : List α} :
    StableSort le l s ↔ s = l.mergeSort le := by
  constructor
  · intro hs
    exact hs.eq hle (hle.stableSort_mergeSort l)
  · rintro rfl
    exact hle.stableSort_mergeSort l

/-- Leaving out elements before sorting is leaving them out of the sorted list. -/
theorem mergeSort_filter (hle : Comparison le) (q : α → Bool) (l : List α) :
    (l.filter q).mergeSort le = (l.mergeSort le).filter q :=
  (hle.stableSort_mergeSort (l.filter q)).eq hle ((hle.stableSort_mergeSort l).filter q)

/-- Two arrangements of the same elements have the same sorted form if no two different elements
tie. -/
theorem Comparison.mergeSort_eq_of_perm (hle : Comparison le) {l m : List α} (hlm : l.Perm m)
    (hties : ∀ a ∈ l, ∀ b ∈ l, tied le a b = true → a = b) : l.mergeSort le = m.mergeSort le := by
  have hl := hle.stableSort_mergeSort l
  have hm := hle.stableSort_mergeSort m
  refine (hl.perm.trans (hlm.trans hm.perm.symm)).eq_of_pairwise ?_ hl.ordered hm.ordered
  intro a b ha hb hab hba
  have hb' : b ∈ l := hlm.mem_iff.mpr (hm.perm.mem_iff.mp hb)
  exact hties a (hl.perm.mem_iff.mp ha) b hb' (Bool.and_eq_true_iff.mpr ⟨hab, hba⟩)

/-! ### What stands in front in a sorted list -/

/-- Whether every element of a list that precedes a given one, or ties with it, has a property. -/
def allUpTo (le : α → α → Bool) (p : α → Bool) (l : List α) (a : α) : Bool :=
  l.all fun b => !le b a || p b

namespace Comparison

/-- The elements in front of a sorted list that have a property are those up to which all elements
have it, if elements that tie agree on the property. -/
theorem takeWhile_eq_filter (hle : Comparison le) {p : α → Bool}
    (hp : ∀ a b, tied le a b = true → p a = p b) {s : List α}
    (hs : s.Pairwise fun a b => le a b = true) :
    s.takeWhile p = s.filter (allUpTo le p s) := by
  induction s with
  | nil => rfl
  | cons a s ih =>
      cases hpa : p a with
      | false =>
          rw [List.takeWhile_cons_of_neg (by simp [hpa])]
          refine (List.filter_eq_nil_iff.mpr fun b hb hall => ?_).symm
          have hab := hle.le_of_mem_cons hs hb
          have ha := List.all_eq_true.mp hall a List.mem_cons_self
          simp [hab, hpa] at ha
      | true =>
          have hfirst : allUpTo le p (a :: s) a = true := by
            refine List.all_eq_true.mpr fun b hb => ?_
            cases hba : le b a with
            | false => rfl
            | true =>
                have htie : tied le a b = true := by simp [tied, hle.le_of_mem_cons hs hb, hba]
                rw [← hp a b htie, hpa]
                rfl
          have hrest : allUpTo le p (a :: s) = allUpTo le p s := by
            funext b
            simp [allUpTo, hpa]
          rw [List.takeWhile_cons_of_pos hpa, List.filter_cons_of_pos hfirst, hrest,
            ih (List.pairwise_cons.mp hs).2]

theorem perm_takeWhile (hle : Comparison le) {p : α → Bool}
    (hp : ∀ a b, tied le a b = true → p a = p b) {s t : List α}
    (hs : s.Pairwise fun a b => le a b = true) (ht : t.Pairwise fun a b => le a b = true)
    (hst : s.Perm t) : (s.takeWhile p).Perm (t.takeWhile p) := by
  have hsame : allUpTo le p s = allUpTo le p t := funext fun a => hst.all_eq
  rw [hle.takeWhile_eq_filter hp hs, hle.takeWhile_eq_filter hp ht, hsame]
  exact hst.filter _

theorem perm_dropWhile (hle : Comparison le) {p : α → Bool}
    (hp : ∀ a b, tied le a b = true → p a = p b) {s t : List α}
    (hs : s.Pairwise fun a b => le a b = true) (ht : t.Pairwise fun a b => le a b = true)
    (hst : s.Perm t) : (s.dropWhile p).Perm (t.dropWhile p) := by
  have htake := hle.perm_takeWhile hp hs ht hst
  have happend : (s.takeWhile p ++ s.dropWhile p).Perm (t.takeWhile p ++ t.dropWhile p) := by
    rw [List.takeWhile_append_dropWhile, List.takeWhile_append_dropWhile]
    exact hst
  exact (List.perm_append_left_iff _).mp (happend.trans (htake.symm.append_right _))

end Comparison

end TangibleBlocks.Sorting
