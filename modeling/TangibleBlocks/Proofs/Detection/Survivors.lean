import TangibleBlocks.Proofs.Detection.Suppression

/-!
Which boxes survive suppression. Those that do are in order and do not lie on each
other, and there is nothing to suppress in such a list. What the boxes were taken
for has no say in it: with other labels, the same places of the list survive.
-/

namespace TangibleBlocks.Detection

theorem isFree_iff {threshold : Binary32} {kept : List Detection} {d : Detection} :
    isFree threshold kept d = true ↔ ∀ k ∈ kept, k.overlap d ≤ threshold := by
  simp [isFree]

/-! ### Lists in which there is nothing to suppress -/

/-- A sweep keeps everything exactly if every box is free of those kept before and no box lies on an
earlier one. -/
theorem keep_eq_self_iff {threshold : Binary32} {kept items : List Detection} :
    keep threshold kept items = items ↔
      (∀ d ∈ items, isFree threshold kept d = true) ∧
        items.Pairwise fun a b => a.overlap b ≤ threshold := by
  induction items generalizing kept with
  | nil => simp [keep]
  | cons d items ih =>
      simp only [keep, List.forall_mem_cons, List.pairwise_cons]
      cases hd : isFree threshold kept d with
      | true =>
          simp only [if_true, List.cons.injEq, true_and, ih, isFree_cons]
          constructor
          · rintro ⟨hfree, hapart⟩
            exact ⟨fun e he => (hfree e he).2, fun e he => (hfree e he).1, hapart⟩
          · rintro ⟨hfree, hfirst, hapart⟩
            exact ⟨fun e he => ⟨hfirst e he, hfree e he⟩, hapart⟩
      | false =>
          -- Without the first box, what is kept is too short.
          have hshort : keep threshold kept items ≠ d :: items := by
            intro h
            have hle := (keep_sublist threshold kept items).length_le
            rw [h, List.length_cons] at hle
            omega
          simpa using hshort

/-- What a sweep keeps is free of what was kept before, and of itself. -/
theorem apart_keep (threshold : Binary32) (kept items : List Detection) :
    (∀ d ∈ keep threshold kept items, isFree threshold kept d = true) ∧
      (keep threshold kept items).Pairwise fun a b => a.overlap b ≤ threshold := by
  induction items generalizing kept with
  | nil => simp [keep]
  | cons d items ih =>
      simp only [keep]
      split
      next hd =>
        obtain ⟨hfree, hapart⟩ := ih (d :: kept)
        simp only [isFree_cons] at hfree
        exact ⟨List.forall_mem_cons.mpr ⟨hd, fun e he => (hfree e he).2⟩,
          List.pairwise_cons.mpr ⟨fun e he => (hfree e he).1, hapart⟩⟩
      next => exact ih kept

theorem sorted_eq_self_iff {items : List Detection} :
    sorted items = items ↔ items.Pairwise fun a b => b.score.rank ≤ a.score.rank := by
  constructor
  · intro h
    rw [← h]
    exact (stableSort_sorted items).ordered.imp of_decide_eq_true
  · intro h
    exact List.mergeSort_of_pairwise (h.imp decide_eq_true)

/-- Nothing is suppressed, and no box changes its place, exactly if the boxes are in descending
order of their scores and no box lies on an earlier one. -/
theorem suppress_eq_self_iff {items : List Detection} {threshold : Binary32} :
    suppress items threshold = items ↔
      (items.Pairwise fun a b => b.score.rank ≤ a.score.rank) ∧
        items.Pairwise fun a b => a.overlap b ≤ threshold := by
  constructor
  · intro h
    rw [← h]
    exact ⟨pairwise_suppress items threshold, (apart_keep threshold [] (sorted items)).2⟩
  · rintro ⟨hordered, hapart⟩
    rw [suppress, sorted_eq_self_iff.mpr hordered]
    exact keep_eq_self_iff.mpr ⟨fun _ _ => rfl, hapart⟩

/-- There is nothing to suppress among the boxes that have survived. -/
theorem suppress_suppress (items : List Detection) (threshold : Binary32) :
    suppress (suppress items threshold) threshold = suppress items threshold := by
  refine suppress_eq_self_iff.mpr ⟨pairwise_suppress items threshold, ?_⟩
  exact (apart_keep threshold [] (sorted items)).2

/-! ### Labels -/

/-- The same box with the same score, perhaps taken for something else. -/
def SameBox (a b : Detection) : Prop :=
  b = { a with classId := b.classId, block := b.block }

theorem SameBox.score_eq {a b : Detection} (h : SameBox a b) : b.score = a.score := by
  rw [h]

theorem SameBox.overlap_eq {a b c d : Detection} (hab : SameBox a b) (hcd : SameBox c d) :
    b.overlap d = a.overlap c := by
  rw [hab, hcd]
  rfl

section Labels

variable {α : Type} (f g : α → Detection) (threshold : Binary32)

variable {f g threshold} in
theorem isFree_map_congr {kept : List α} {a : α} (hkept : ∀ k ∈ kept, SameBox (f k) (g k))
    (ha : SameBox (f a) (g a)) :
    isFree threshold (kept.map g) (g a) = isFree threshold (kept.map f) (f a) := by
  rw [Bool.eq_iff_iff, isFree_iff, isFree_iff, List.forall_mem_map, List.forall_mem_map]
  refine forall₂_congr fun k hk => ?_
  rw [(hkept k hk).overlap_eq ha]

/-- In a sweep, the same things are kept under both labellings. -/
theorem exists_kept (kept l : List α) (hkept : ∀ k ∈ kept, SameBox (f k) (g k))
    (hl : ∀ a ∈ l, SameBox (f a) (g a)) :
    ∃ m : List α, m.Sublist l ∧ keep threshold (kept.map f) (l.map f) = m.map f ∧
      keep threshold (kept.map g) (l.map g) = m.map g := by
  induction l generalizing kept with
  | nil => exact ⟨[], List.Sublist.slnil, rfl, rfl⟩
  | cons a l ih =>
      obtain ⟨ha, hrest⟩ := List.forall_mem_cons.mp hl
      simp only [List.map_cons, keep, isFree_map_congr hkept ha]
      split
      · obtain ⟨m, hm, hf, hg⟩ := ih (a :: kept) (List.forall_mem_cons.mpr ⟨ha, hkept⟩) hrest
        rw [List.map_cons] at hf hg
        exact ⟨a :: m, hm.cons_cons a, by rw [hf, List.map_cons], by rw [hg, List.map_cons]⟩
      · obtain ⟨m, hm, hf, hg⟩ := ih kept hkept hrest
        exact ⟨m, hm.cons a, hf, hg⟩

/-- If things have the same boxes and scores under two labellings, then the same of them survive, in
the same order. -/
theorem exists_survivors (l : List α) (hl : ∀ a ∈ l, SameBox (f a) (g a)) :
    ∃ m : List α, m.Subperm l ∧ suppress (l.map f) threshold = m.map f ∧
      suppress (l.map g) threshold = m.map g := by
  -- Under both labellings, the things are sorted by the same comparison.
  let le (a b : α) : Bool := atLeast (f a) (f b)
  have hf : sorted (l.map f) = (l.mergeSort le).map f :=
    (List.map_mergeSort (r := le) (s := atLeast) fun _ _ _ _ => rfl).symm
  have hg : sorted (l.map g) = (l.mergeSort le).map g := by
    refine (List.map_mergeSort (r := le) (s := atLeast) fun a ha b hb => ?_).symm
    simp only [le, atLeast, (hl a ha).score_eq, (hl b hb).score_eq]
  have hperm : (l.mergeSort le).Perm l := List.mergeSort_perm l le
  obtain ⟨m, hm, hkf, hkg⟩ := exists_kept f g threshold [] (l.mergeSort le) (by simp)
    fun a ha => hl a (hperm.mem_iff.mp ha)
  refine ⟨m, hm.subperm.trans hperm.subperm, ?_, ?_⟩
  · rw [suppress, hf]
    exact hkf
  · rw [suppress, hg]
    exact hkg

end Labels

/-- It makes no difference whether boxes are taken for something else before the suppression or
after it. The new label may depend on the box, its score and the old label, and even on the place in
the list: of two lists with the same boxes and scores the same places survive, in the same order. -/
theorem suppress_map_relabelled {f : Detection → Detection} (hf : ∀ d, SameBox d (f d))
    (items : List Detection) (threshold : Binary32) :
    suppress (items.map f) threshold = (suppress items threshold).map f ∧
      ∀ others, List.Forall₂ SameBox items others →
        ∃ pairs : List (Detection × Detection), pairs.Subperm (items.zip others) ∧
          suppress items threshold = pairs.map Prod.fst ∧
          suppress others threshold = pairs.map Prod.snd := by
  constructor
  · obtain ⟨m, -, hitems, hmap⟩ := exists_survivors id f threshold items fun d _ => hf d
    rw [List.map_id, List.map_id] at hitems
    rw [hmap, hitems]
  · intro others hsame
    have hlength : items.length = others.length := hsame.length_eq
    obtain ⟨pairs, hpairs, hitems, hothers⟩ :=
      exists_survivors Prod.fst Prod.snd threshold (items.zip others) fun p hp =>
        (List.forall₂_iff_zip.mp hsame).2 hp
    rw [List.map_fst_zip (by omega)] at hitems
    rw [List.map_snd_zip (by omega)] at hothers
    exact ⟨pairs, hpairs, hitems, hothers⟩

/-- A box on a better one and a box beside them, taken for other blocks by where they are. -/
theorem suppress_map_relabelled_jump :
    let f (d : Detection) : Detection :=
      { d with classId := d.classId + 1, block := if d.centerX < .hundred then .loop else .jump }
    let worse : Detection := ⟨⟨0x42d20000⟩, .zero, .hundred, .hundred, ⟨0x3f333333⟩, 0, .walk⟩
    let better : Detection := { worse with centerX := .hundred, score := ⟨0x3f4ccccd⟩ }
    let beside : Detection := { worse with centerX := .zero }
    (∀ d, SameBox d (f d)) ∧
      suppress ([better, worse, beside].map f) ⟨0x3ee66666⟩ = [f better, f beside] := by
  intro f worse better beside
  have hf : ∀ d, SameBox d (f d) := fun _ => rfl
  have hsorted : sorted [better, worse, beside] = [better, worse, beside] :=
    sorted_eq_self_iff.mpr (by decide)
  have hkept : keep ⟨0x3ee66666⟩ [] [better, worse, beside] = [better, beside] := by decide +kernel
  refine ⟨hf, ?_⟩
  rw [(suppress_map_relabelled hf _ _).1, suppress, hsorted, hkept, List.map_cons,
    List.map_singleton]

end TangibleBlocks.Detection
