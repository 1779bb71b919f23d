import TangibleBlocks.Detection.Candidates
import TangibleBlocks.Proofs.Faults

/-!
Decoding in machine words. As long as the number of all fields is a word, words make no
difference, and decoding comes to the candidates. Where it is no word, a tensor may pass
the test although it does not fit. Then some score has no place in the data, if there are
scores at all, and decoding breaks off.
-/

namespace TangibleBlocks

/-- What is found in a list, piece by piece. -/
theorem toList_foldl_append {α β : Type} {f : α → Option β} {as : List α} {found : Array β} :
    (as.foldl (fun found a => found ++ (f a).toArray) found).toList =
      found.toList ++ as.filterMap f := by
  induction as generalizing found with
  | nil => simp
  | cons a as ih =>
      rw [List.foldl_cons, ih]
      cases h : f a with
      | none => simp [h]
      | some b => simp [h]

namespace Tensor

variable {t : Tensor} {v : Vocabulary} {threshold : Binary32} {classes anchor field : Nat}

/-! ### The test and the places -/

/-- What is compared with the length is what is left of the number of fields. -/
theorem fitsInWords_iff_mod :
    t.FitsInWords classes ↔
      0 < t.anchors ∧ t.size = t.anchors * (boxFields + classes) % UInt64.size := by
  rw [FitsInWords, ← UInt64.ofNat_add, ← UInt64.ofNat_mul, UInt64.toNat_ofNat']

/-- As long as the product in it is a word, the test in machine words is the same. -/
theorem fitsInWords_iff (hword : t.anchors * (boxFields + classes) < UInt64.size) :
    t.FitsInWords classes ↔ t.Fits classes := by
  rw [fitsInWords_iff_mod, Nat.mod_eq_of_lt hword]
  rfl

theorem toNat_indexInWords (t : Tensor) (classes anchor field : Nat) :
    (t.indexInWords classes anchor field).toNat =
      t.index classes anchor field % UInt64.size := by
  unfold indexInWords index
  cases t.layout with
  | byAnchor =>
      dsimp only
      rw [← UInt64.ofNat_add, ← UInt64.ofNat_mul, ← UInt64.ofNat_add, UInt64.toNat_ofNat']
  | byField =>
      dsimp only
      rw [← UInt64.ofNat_mul, ← UInt64.ofNat_add, UInt64.toNat_ofNat']

theorem toNat_indexInWords_of_fits (hword : t.anchors * (boxFields + classes) < UInt64.size)
    (hfits : t.Fits classes) (ha : anchor < t.anchors) (hf : field < boxFields + classes) :
    (t.indexInWords classes anchor field).toNat = t.index classes anchor field := by
  rw [toNat_indexInWords, Nat.mod_eq_of_lt]
  calc t.index classes anchor field < t.size := index_lt hfits ha hf
    _ = t.anchors * (boxFields + classes) := hfits.2
    _ < UInt64.size := hword

theorem getElem?_index (hfits : t.Fits classes) (ha : anchor < t.anchors)
    (hf : field < boxFields + classes) :
    t.data[t.index classes anchor field]? = some (t.field classes anchor field) := by
  have hlt : t.index classes anchor field < t.data.size := index_lt hfits ha hf
  rw [Tensor.field, Array.getD_eq_getD_getElem?, Array.getElem?_eq_getElem hlt, Option.getD_some]

theorem read_eq_ok_iff {x : Binary32} :
    t.read classes anchor field = .ok x ↔
      t.data[(t.indexInWords classes anchor field).toNat]? = some x := by
  rw [read]
  split
  next h => rw [h, Except.ok.injEq, Option.some.injEq]
  next h => simp [h]

/-! ### Decoding within words -/

theorem read_eq_ok (hword : t.anchors * (boxFields + classes) < UInt64.size)
    (hfits : t.Fits classes) (ha : anchor < t.anchors) (hf : field < boxFields + classes) :
    t.read classes anchor field = .ok (t.field classes anchor field) := by
  rw [read_eq_ok_iff, toNat_indexInWords_of_fits hword hfits ha hf, getElem?_index hfits ha hf]

theorem readBest_eq_ok (hword : t.anchors * (boxFields + classes) < UInt64.size)
    (hfits : t.Fits classes) (ha : anchor < t.anchors) :
    t.readBest classes anchor = .ok (t.best classes anchor) := by
  refine foldlM_eq_ok (fun best c hc => ?_) _
  have hc : c < classes := List.mem_range.mp hc
  rw [readBetter, read_eq_ok hword hfits ha (by omega)]
  rfl

theorem readCandidate?_eq_ok (hword : t.anchors * (boxFields + v.size) < UInt64.size)
    (hfits : t.Fits v.size) (ha : anchor < t.anchors) (threshold : Binary32) :
    t.readCandidate? v threshold anchor = .ok (t.candidate? v threshold anchor) := by
  have hbox (field : Nat) (hf : field < boxFields) :
      t.read v.size anchor field = .ok (t.field v.size anchor field) :=
    read_eq_ok hword hfits ha (by omega)
  rw [readCandidate?, readBest_eq_ok hword hfits ha, candidate?]
  simp only [bind, Except.bind]
  split
  · rfl
  · cases v.block? (t.best v.size anchor).2 with
    | none => rfl
    | some b =>
        simp only [hbox 0 (by decide), hbox 1 (by decide), hbox 2 (by decide), hbox 3 (by decide)]
        rfl

/-- Anchors are read one after the other. -/
theorem readOn_eq_foldlM (left anchor : Nat) (found : Array Detection) :
    t.readOn v threshold left anchor found =
      (List.range' anchor left).foldlM
        (fun found anchor => do
          return found ++ (← t.readCandidate? v threshold anchor).toArray) found := by
  induction left generalizing anchor found with
  | zero => rfl
  | succ left ih =>
      rw [readOn, List.range'_succ, List.foldlM_cons]
      cases t.readCandidate? v threshold anchor with
      | error o => rfl
      | ok candidate => exact ih (anchor + 1) (found ++ candidate.toArray)

theorem decode_eq_nil (hfits : ¬ t.FitsInWords v.size) : t.decode v threshold = .ok [] :=
  if_neg hfits

/-- As long as the number of all fields is a word, decoding comes to the candidates. -/
theorem decode_eq_ok (hword : t.anchors * (boxFields + v.size) < UInt64.size)
    (threshold : Binary32) : t.decode v threshold = .ok (t.candidates v threshold) := by
  rw [decode, candidates]
  simp only [fitsInWords_iff hword]
  split
  next hfits =>
    rw [readOn_eq_foldlM, ← List.range_eq_range']
    have hstep (found : Array Detection) (anchor : Nat) (hanchor : anchor ∈ List.range t.anchors) :
        (do return found ++ (← t.readCandidate? v threshold anchor).toArray : Except Outside _) =
          .ok (found ++ (t.candidate? v threshold anchor).toArray) := by
      rw [readCandidate?_eq_ok hword hfits (List.mem_range.mp hanchor)]
      rfl
    rw [foldlM_eq_ok hstep, Except.map, toList_foldl_append]
    rfl
  next => rfl

/-! ### Decoding beyond words -/

/-- What a machine can hold: the number of anchors is a word, and the data, with four bytes for
every number, take up less than half of all addresses. -/
structure OnMachine (t : Tensor) : Prop where
  anchors_lt : t.anchors < UInt64.size
  size_lt : 8 * t.size < UInt64.size

instance (t : Tensor) : Decidable t.OnMachine :=
  decidable_of_iff (t.anchors < UInt64.size ∧ 8 * t.size < UInt64.size)
    ⟨fun h => ⟨h.1, h.2⟩, fun h => ⟨h.anchors_lt, h.size_lt⟩⟩

/-- A tensor that is too large for words does not fit, because the data are not. -/
theorem not_fits_of_size_le (ht : t.OnMachine)
    (hword : UInt64.size ≤ t.anchors * (boxFields + classes)) : ¬ t.Fits classes := by
  rintro ⟨-, hsize⟩
  have hlt : 8 * t.size < UInt64.size := ht.size_lt
  omega

/-- Some multiple of a number is not below `size`, and not far above it either. -/
theorem exists_multiple_ge {n : Nat} (hn : 0 < n) (least size : Nat) :
    ∃ m, least ≤ m ∧ size ≤ m * n ∧ m * n ≤ max (least * n) (size + n) := by
  have hmod : size % n < n := Nat.mod_lt size hn
  have hdiv : size / n * n + size % n = size := Nat.div_add_mod' size n
  have hnext : (size / n + 1) * n = size / n * n + n := Nat.succ_mul _ _
  rcases Nat.le_total (size / n + 1) least with h | h
  · have hle : (size / n + 1) * n ≤ least * n := Nat.mul_le_mul_right n h
    exact ⟨least, Nat.le_refl _, by omega, by omega⟩
  · exact ⟨size / n + 1, h, by omega, by omega⟩

/-- In the rows of a table that is too large for words, some score has no place in the data. -/
theorem exists_beyond_of_rows {size anchors k : Nat} (hk : boxFields < k)
    (hsize : 8 * size < UInt64.size) (hword : UInt64.size ≤ anchors * k) :
    ∃ anchor < anchors, ∃ field, boxFields ≤ field ∧ field < k ∧
      size ≤ (anchor * k + field) % UInt64.size := by
  have hmod : size % k < k := Nat.mod_lt size (by omega)
  have hdiv : size / k * k + size % k = size := Nat.div_add_mod' size k
  have hfields : boxFields = 4 := rfl
  have hwords : UInt64.size = 18446744073709551616 := rfl
  -- The data end in this row, at the latest with its first score.
  refine ⟨size / k, ?_, max boxFields (size % k), by omega, by omega, ?_⟩
  · apply Nat.lt_of_mul_lt_mul_right (a := k)
    omega
  · rw [Nat.mod_eq_of_lt (by omega)]
    omega

/-- In the columns of a table that is too large for words, some score has no place in the data. -/
theorem exists_beyond_of_columns {size anchors k : Nat} (hk : boxFields < k)
    (hsize : 8 * size < UInt64.size) (hanchors : anchors < UInt64.size)
    (hword : UInt64.size ≤ anchors * k) :
    ∃ anchor < anchors, ∃ field, boxFields ≤ field ∧ field < k ∧
      size ≤ (field * anchors + anchor) % UInt64.size := by
  have hfields : boxFields = 4 := rfl
  have hwords : UInt64.size = 18446744073709551616 := rfl
  have hpos : 0 < anchors := Nat.pos_of_ne_zero fun hzero => by
    rw [hzero, Nat.zero_mul] at hword
    omega
  rcases Nat.lt_or_ge size anchors with hlong | hshort
  · -- Already the first column of scores is longer than the data, so it cannot lie in them.
    by_cases hfirst : size ≤ boxFields * anchors % UInt64.size
    · exact ⟨0, hpos, boxFields, Nat.le_refl _, hk, hfirst⟩
    · refine ⟨size - boxFields * anchors % UInt64.size, by omega, boxFields, Nat.le_refl _, hk, ?_⟩
      rw [hfields, hwords] at hfirst ⊢
      omega
  · -- The first column that begins behind the data begins at a place that is still a word.
    obtain ⟨field, hfield, hge, hle⟩ := exists_multiple_ge hpos boxFields size
    have hlt : field * anchors < UInt64.size := by
      rw [hfields] at hle
      omega
    refine ⟨0, hpos, field, hfield, ?_, ?_⟩
    · apply Nat.lt_of_mul_lt_mul_right (a := anchors)
      rw [Nat.mul_comm k]
      omega
    · rwa [Nat.add_zero, Nat.mod_eq_of_lt hlt]

/-- If the number of all fields is no word, some score has no place in the data. -/
theorem exists_beyond (ht : t.OnMachine) (hclasses : 0 < classes)
    (hword : UInt64.size ≤ t.anchors * (boxFields + classes)) :
    ∃ anchor < t.anchors, ∃ c < classes,
      t.size ≤ (t.indexInWords classes anchor (boxFields + c)).toNat := by
  have hk : boxFields < boxFields + classes := by omega
  have hbeyond : ∃ anchor < t.anchors, ∃ field, boxFields ≤ field ∧ field < boxFields + classes ∧
      t.size ≤ t.index classes anchor field % UInt64.size := by
    unfold index
    cases t.layout with
    | byAnchor => exact exists_beyond_of_rows hk ht.size_lt hword
    | byField => exact exists_beyond_of_columns hk ht.size_lt ht.anchors_lt hword
  obtain ⟨anchor, hanchor, field, hle, hlt, hplace⟩ := hbeyond
  refine ⟨anchor, hanchor, field - boxFields, by omega, ?_⟩
  rwa [Nat.add_sub_cancel' hle, toNat_indexInWords]

theorem exists_readBest_of_readCandidate? {item : Option Detection}
    (h : t.readCandidate? v threshold anchor = .ok item) :
    ∃ best, t.readBest v.size anchor = .ok best := by
  rw [readCandidate?, bind_eq_ok_iff] at h
  exact h.imp fun _ => And.left

/-- Where the best class of an anchor is found, all its scores have places in the data. -/
theorem index_lt_of_readBest {best : Binary32 × Nat} (h : t.readBest classes anchor = .ok best)
    {c : Nat} (hc : c < classes) :
    (t.indexInWords classes anchor (boxFields + c)).toNat < t.size := by
  obtain ⟨u, u', hstep⟩ := exists_of_foldlM_eq_ok h c (List.mem_range.mpr hc)
  rw [readBetter, bind_eq_ok_iff] at hstep
  obtain ⟨score, hscore, -⟩ := hstep
  exact (Array.getElem?_eq_some_iff.mp (read_eq_ok_iff.mp hscore)).1

/-- Where decoding comes to an end, all scores have places in the data. -/
theorem index_lt_of_decode {ds : List Detection} (hfits : t.FitsInWords v.size)
    (h : t.decode v threshold = .ok ds) (ha : anchor < t.anchors) {c : Nat} (hc : c < v.size) :
    (t.indexInWords v.size anchor (boxFields + c)).toNat < t.size := by
  rw [decode, if_pos hfits] at h
  cases hread : t.readOn v threshold t.anchors 0 #[] with
  | error o =>
      rw [hread] at h
      cases h
  | ok found =>
      rw [readOn_eq_foldlM, ← List.range_eq_range'] at hread
      obtain ⟨u, u', hstep⟩ := exists_of_foldlM_eq_ok hread anchor (List.mem_range.mpr ha)
      obtain ⟨item, hitem, -⟩ := bind_eq_ok_iff.mp hstep
      obtain ⟨best, hbest⟩ := exists_readBest_of_readCandidate? hitem
      exact index_lt_of_readBest hbest hc

theorem decode_eq_error (ht : t.OnMachine) (hv : 0 < v.size)
    (hword : UInt64.size ≤ t.anchors * (boxFields + v.size)) (hfits : t.FitsInWords v.size)
    (threshold : Binary32) : ∃ o, t.decode v threshold = .error o := by
  cases hdecode : t.decode v threshold with
  | error o => exact ⟨o, rfl⟩
  | ok ds =>
      obtain ⟨anchor, hanchor, c, hc, hplace⟩ := exists_beyond ht hv hword
      exact absurd (index_lt_of_decode hfits hdecode hanchor hc) (Nat.not_lt.mpr hplace)

/-- Where there are no classes, no score is read. -/
theorem decode_of_size_eq_zero (hv : v.size = 0) : t.decode v threshold = .ok [] := by
  have hnone : v.block? 0 = none := Array.getElem?_eq_none (Nat.le_of_eq hv)
  have hread (anchor : Nat) : t.readCandidate? v threshold anchor = .ok none := by
    have hbest : t.readBest v.size anchor = .ok (.lowest, 0) := by
      rw [hv]
      rfl
    rw [readCandidate?, hbest]
    simp only [bind, Except.bind, hnone]
    split <;> rfl
  have hreadOn (left anchor : Nat) : t.readOn v threshold left anchor #[] = .ok #[] := by
    induction left generalizing anchor with
    | zero => rfl
    | succ left ih =>
        rw [readOn, hread]
        exact ih (anchor + 1)
  rw [decode, hreadOn]
  split <;> rfl

/-- Decoding breaks off exactly if there are scores to be read and a tensor that is too large for
words passes the test nevertheless. -/
theorem decode_eq_error_iff (ht : t.OnMachine) :
    (∃ o, t.decode v threshold = .error o) ↔
      0 < v.size ∧ UInt64.size ≤ t.anchors * (boxFields + v.size) ∧ t.FitsInWords v.size := by
  constructor
  · rintro ⟨o, ho⟩
    refine ⟨Nat.pos_of_ne_zero fun hv => ?_, Nat.not_lt.mp fun hword => ?_,
      Decidable.not_not.mp fun hfits => ?_⟩
    · rw [decode_of_size_eq_zero hv] at ho
      cases ho
    · rw [decode_eq_ok hword] at ho
      cases ho
    · rw [decode_eq_nil hfits] at ho
      cases ho
  · rintro ⟨hv, hword, hfits⟩
    exact decode_eq_error ht hv hword hfits threshold

/-- Where decoding comes to an end at all, it comes to the candidates. -/
theorem eq_candidates_of_decode (ht : t.OnMachine) {ds : List Detection}
    (h : t.decode v threshold = .ok ds) : ds = t.candidates v threshold := by
  by_cases hword : t.anchors * (boxFields + v.size) < UInt64.size
  · rw [decode_eq_ok hword] at h
    exact (Except.ok.inj h).symm
  · rw [Nat.not_lt] at hword
    have hnil : t.decode v threshold = .ok [] := by
      by_cases hv : v.size = 0
      · exact decode_of_size_eq_zero hv
      · refine decode_eq_nil fun hfits => ?_
        obtain ⟨o, ho⟩ := decode_eq_error ht (Nat.pos_of_ne_zero hv) hword hfits threshold
        rw [ho] at h
        cases h
    rw [hnil] at h
    rw [candidates, if_neg (not_fits_of_size_le ht hword)]
    exact (Except.ok.inj h).symm

/-- No data at all, and an eighth of all words for the number of anchors. With twenty classes there
are three times as many fields as there are words, so nothing is left of their number. -/
def hollow (layout : Layout) : Tensor :=
  ⟨#[], 2305843009213693952, layout⟩

end Tensor

end TangibleBlocks
