import Mathlib.Data.List.Basic
import TangibleBlocks.Detection.Candidates

/-!
The two layouts of a tensor. A table has a row for every anchor. Stored row by
row it is a tensor in the one layout, stored column by column a tensor in the
other. In both of them a field of an anchor is the same entry of the table, so
the same candidates are read from both.
-/

namespace TangibleBlocks.Tensor

variable {a k : Nat}

/-- The tensor in which the rows of a table are stored one after the other. -/
def ofRows (rows : Vector (Vector Binary32 k) a) : Tensor :=
  ⟨rows.flatten.toArray, a, .byAnchor⟩

/-- The tensor in which the columns of a table are stored one after the other. -/
def ofColumns (columns : Vector (Vector Binary32 a) k) : Tensor :=
  ⟨columns.flatten.toArray, a, .byField⟩

/-- The columns of a table that is given by its rows. -/
def columns (rows : Vector (Vector Binary32 k) a) : Vector (Vector Binary32 a) k :=
  Vector.ofFn fun field => rows.map fun row => row[field]

theorem getElem_columns (rows : Vector (Vector Binary32 k) a) {anchor field : Nat}
    (ha : anchor < a) (hf : field < k) : (columns rows)[field][anchor] = rows[anchor][field] := by
  simp [columns]

/-! ### Places in a table -/

/-- A place in a row is a place in all the rows stored one after the other. -/
theorem place_lt {n m i j : Nat} (hi : i < n) (hj : j < m) : i * m + j < n * m :=
  calc i * m + j < i * m + m := by omega
    _ = (i + 1) * m := by rw [Nat.succ_mul]
    _ ≤ n * m := Nat.mul_le_mul_right m hi

theorem div_mod_place {m i j : Nat} (hj : j < m) : (i * m + j) / m = i ∧ (i * m + j) % m = j := by
  constructor
  · rw [Nat.mul_comm, Nat.mul_add_div (by omega), Nat.div_eq_of_lt hj, Nat.add_zero]
  · rw [Nat.mul_comm, Nat.mul_add_mod, Nat.mod_eq_of_lt hj]

theorem getElem?_flatten_toArray {n m i j : Nat} (blocks : Vector (Vector Binary32 m) n)
    (hi : i < n) (hj : j < m) : blocks.flatten.toArray[i * m + j]? = some blocks[i][j] := by
  obtain ⟨hdiv, hmod⟩ := div_mod_place (i := i) hj
  rw [Vector.getElem?_toArray, Vector.getElem?_eq_getElem (place_lt hi hj),
    Vector.getElem_flatten (place_lt hi hj)]
  simp only [hdiv, hmod]

/-! ### Fields -/

variable {classes anchor field : Nat}

theorem fits_ofRows_iff {rows : Vector (Vector Binary32 (boxFields + classes)) a} :
    (ofRows rows).Fits classes ↔ 0 < a := by
  simp [Fits, ofRows, size]

theorem fits_ofColumns_iff {columns : Vector (Vector Binary32 a) (boxFields + classes)} :
    (ofColumns columns).Fits classes ↔ 0 < a := by
  simp [Fits, ofColumns, size, Nat.mul_comm]

theorem field_ofRows (rows : Vector (Vector Binary32 (boxFields + classes)) a) (ha : anchor < a)
    (hf : field < boxFields + classes) :
    (ofRows rows).field classes anchor field = rows[anchor][field] := by
  rw [Tensor.field, Array.getD_eq_getD_getElem?]
  exact congrArg (·.getD .zero) (getElem?_flatten_toArray rows ha hf)

theorem field_ofColumns (columns : Vector (Vector Binary32 a) (boxFields + classes))
    (ha : anchor < a) (hf : field < boxFields + classes) :
    (ofColumns columns).field classes anchor field = columns[field][anchor] := by
  rw [Tensor.field, Array.getD_eq_getD_getElem?]
  exact congrArg (·.getD .zero) (getElem?_flatten_toArray columns hf ha)

/-! ### Candidates -/

theorem best_congr {t t' : Tensor} {anchor' : Nat}
    (hfield : ∀ field, field < boxFields + classes →
      t.field classes anchor field = t'.field classes anchor' field) :
    t.best classes anchor = t'.best classes anchor' := by
  unfold best
  refine List.foldl_ext _ _ _ fun best c hc => ?_
  have hc : c < classes := List.mem_range.mp hc
  simp only [better, hfield (boxFields + c) (by omega)]

/-- Two anchors with the same fields, perhaps in two tensors, yield the same candidate. -/
theorem candidate?_congr {t t' : Tensor} {v : Vocabulary} {threshold : Binary32} {anchor' : Nat}
    (hfield : ∀ field, field < boxFields + v.size →
      t.field v.size anchor field = t'.field v.size anchor' field) :
    t.candidate? v threshold anchor = t'.candidate? v threshold anchor' := by
  have hbox (field : Nat) (hf : field < boxFields) := hfield field (by omega)
  simp only [candidate?, best_congr hfield, hbox 0 (by decide), hbox 1 (by decide),
    hbox 2 (by decide), hbox 3 (by decide)]

/-- Candidates are read through the fields of the anchors and in no other way. -/
theorem candidates_congr {t t' : Tensor} {v : Vocabulary} {threshold : Binary32}
    (hanchors : t.anchors = t'.anchors) (hfits : t.Fits v.size ↔ t'.Fits v.size)
    (hfield : ∀ anchor field, anchor < t.anchors → field < boxFields + v.size →
      t.field v.size anchor field = t'.field v.size anchor field) :
    t.candidates v threshold = t'.candidates v threshold := by
  unfold candidates
  simp only [hfits]
  split
  · rw [← hanchors]
    refine List.filterMap_congr fun anchor ha => ?_
    exact candidate?_congr fun field hf => hfield anchor field (List.mem_range.mp ha) hf
  · rfl

/-- A table yields the same candidates, with the same bits and in the same order, whether it is
stored by its columns or by its rows. -/
theorem candidates_ofColumns_columns (v : Vocabulary)
    (rows : Vector (Vector Binary32 (boxFields + v.size)) a) (threshold : Binary32) :
    (ofColumns (columns rows)).candidates v threshold = (ofRows rows).candidates v threshold := by
  refine candidates_congr rfl (fits_ofColumns_iff.trans fits_ofRows_iff.symm) ?_
  intro anchor field ha hf
  calc (ofColumns (columns rows)).field v.size anchor field
      = (columns rows)[field][anchor] := field_ofColumns (columns rows) ha hf
    _ = rows[anchor][field] := getElem_columns rows ha hf
    _ = (ofRows rows).field v.size anchor field := (field_ofRows rows ha hf).symm

/-- Two anchors and one class: the scores stand behind the boxes in the one layout and at the end in
the other. -/
example :
    let rows : Vector (Vector Binary32 5) 2 :=
      #v[#v[.hundred, .hundred, .two, .two, .two], #v[.zero, .hundred, .two, .two, .nan]]
    (ofRows rows).data =
        #[.hundred, .hundred, .two, .two, .two, .zero, .hundred, .two, .two, .nan] ∧
      (ofColumns (columns rows)).data =
        #[.hundred, .zero, .hundred, .hundred, .two, .two, .two, .two, .two, .nan] := by
  decide +kernel

end TangibleBlocks.Tensor
