import Mathlib.Data.Set.Function
import TangibleBlocks.Proofs.Detection.Layouts
import TangibleBlocks.Proofs.Detection.Words

/-!
Where the fields of a tensor are stored. In a tensor that fits there is one place for
every field of every anchor, and one field for every place. So it is decoded without
ever going beyond the data, as long as the number of its fields is a word.
-/

namespace TangibleBlocks

namespace Tensor

variable {t : Tensor} {classes anchor field place : Nat}

/-- The fields of a tensor, each with its anchor. -/
def fields (t : Tensor) (classes : Nat) : Set (Nat × Nat) :=
  {p | p.1 < t.anchors ∧ p.2 < boxFields + classes}

/-- Which field of which anchor is stored in a place. -/
def stored (t : Tensor) (classes place : Nat) : Nat × Nat :=
  match t.layout with
  | .byAnchor => (place / (boxFields + classes), place % (boxFields + classes))
  | .byField => (place % t.anchors, place / t.anchors)

theorem stored_index (ha : anchor < t.anchors) (hf : field < boxFields + classes) :
    t.stored classes (t.index classes anchor field) = (anchor, field) := by
  obtain ⟨data, anchors, layout⟩ := t
  cases layout with
  | byAnchor =>
      obtain ⟨hdiv, hmod⟩ := div_mod_place (i := anchor) hf
      exact Prod.ext hdiv hmod
  | byField =>
      obtain ⟨hdiv, hmod⟩ := div_mod_place (i := field) ha
      exact Prod.ext hmod hdiv

theorem index_stored (place : Nat) :
    t.index classes (t.stored classes place).1 (t.stored classes place).2 = place := by
  obtain ⟨data, anchors, layout⟩ := t
  cases layout with
  | byAnchor => exact Nat.div_add_mod' place (boxFields + classes)
  | byField => exact Nat.div_add_mod' place anchors

theorem stored_mem_fields (hfits : t.Fits classes) (hplace : place < t.size) :
    t.stored classes place ∈ t.fields classes := by
  obtain ⟨data, anchors, layout⟩ := t
  obtain ⟨hanchors, hsize⟩ := hfits
  dsimp only at hanchors
  rw [hsize] at hplace
  have hfields : 0 < boxFields + classes := Nat.add_pos_left (by decide) classes
  cases layout with
  | byAnchor =>
      exact ⟨(Nat.div_lt_iff_lt_mul hfields).mpr hplace, Nat.mod_lt place hfields⟩
  | byField =>
      rw [Nat.mul_comm] at hplace
      exact ⟨Nat.mod_lt place hanchors, (Nat.div_lt_iff_lt_mul hanchors).mpr hplace⟩

theorem bijOn_index (hfits : t.Fits classes) :
    Set.BijOn (fun p => t.index classes p.1 p.2) (t.fields classes) {place | place < t.size} := by
  have hinv : Set.InvOn (t.stored classes) (fun p => t.index classes p.1 p.2) (t.fields classes)
      {place | place < t.size} :=
    ⟨fun p hp => stored_index hp.1 hp.2, fun place _ => index_stored place⟩
  refine hinv.bijOn ?_ ?_
  · exact fun p hp => index_lt hfits hp.1 hp.2
  · exact fun place hplace => stored_mem_fields hfits hplace

theorem bijOn_indexInWords (hword : t.anchors * (boxFields + classes) < UInt64.size)
    (hfits : t.Fits classes) :
    Set.BijOn (fun p => (t.indexInWords classes p.1 p.2).toNat) (t.fields classes)
      {place | place < t.size} := by
  refine (bijOn_index hfits).congr fun p hp => ?_
  exact (toNat_indexInWords_of_fits hword hfits hp.1 hp.2).symm

/-- In a tensor that passes the test that it fits, in either layout, every place holds one field of
one anchor, and what is stored there is what is read as that field, if the number of all fields is a
word. Decoding a tensor with so many fields never leaves the data, whatever its length, its layout
and the vocabulary are. It leaves the data exactly if there are scores to be read and the number of
fields is no word, but what is left of it is the length. -/
theorem fields_stored_once (t : Tensor) :
    (∀ classes, t.anchors * (boxFields + classes) < UInt64.size → t.FitsInWords classes →
      Set.BijOn (fun p => (t.indexInWords classes p.1 p.2).toNat) (t.fields classes)
        {place | place < t.size} ∧
      ∀ p ∈ t.fields classes,
        t.data[(t.indexInWords classes p.1 p.2).toNat]? = some (t.field classes p.1 p.2)) ∧
    ∀ (v : Vocabulary) (threshold : Binary32),
      (t.anchors * (boxFields + v.size) < UInt64.size →
        t.decode v threshold = .ok (t.candidates v threshold)) ∧
      (t.OnMachine → ((∃ o, t.decode v threshold = .error o) ↔
        0 < v.size ∧ UInt64.size ≤ t.anchors * (boxFields + v.size) ∧ t.FitsInWords v.size)) := by
  refine ⟨fun classes hword hwords => ?_, fun v threshold => ⟨fun hword => ?_, fun ht => ?_⟩⟩
  · have hfits : t.Fits classes := (fitsInWords_iff hword).mp hwords
    refine ⟨bijOn_indexInWords hword hfits, fun p hp => ?_⟩
    exact read_eq_ok_iff.mp (read_eq_ok hword hfits hp.1 hp.2)
  · exact decode_eq_ok hword threshold
  · exact decode_eq_error_iff ht

/-- Two anchors and one class, stored column by column: the last place holds the score of the second
anchor. -/
theorem fields_stored_once_column :
    let t : Tensor :=
      ⟨#[.zero, .hundred, .zero, .hundred, .two, .two, .two, .two, .two, .nan], 2, .byField⟩
    t.anchors * (boxFields + 1) < UInt64.size ∧ t.FitsInWords 1 ∧
      Set.BijOn (fun p => (t.indexInWords 1 p.1 p.2).toNat) (t.fields 1) {place | place < 10} ∧
      (t.indexInWords 1 1 4).toNat = 9 ∧ t.data[9]? = some .nan := by
  intro t
  have hword : t.anchors * (boxFields + 1) < UInt64.size := by decide
  have hfits : t.FitsInWords 1 := by decide
  exact ⟨hword, hfits, ((fields_stored_once t).1 1 hword hfits).1, rfl, rfl⟩

/-- The columns of a tensor that passes the test without any data: the first score would have its
place in the middle of all addresses. -/
theorem columns_beyond_data :
    (hollow .byField).OnMachine ∧ (hollow .byField).FitsInWords Vocabulary.standard.size ∧
      ∀ threshold, (hollow .byField).decode .standard threshold = .error ⟨9223372036854775808, 0⟩ :=
  ⟨by decide, by decide, fun _ => rfl⟩

end Tensor

end TangibleBlocks
