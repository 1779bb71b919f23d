import Mathlib.Data.List.Induction
import TangibleBlocks.Detection.Candidates
import TangibleBlocks.Proofs.Block.Numbering
import TangibleBlocks.Proofs.Faults
import TangibleBlocks.Source.Shape

/-!
From a query to candidates. A query tells a shape if all its pairs can be understood,
and of the pairs with one key the last one counts. The shape is good for a vocabulary
unless it tells another number of classes. Data of this shape then fit the vocabulary
exactly if they are as many as the anchors that were told need, or, where none were
told, enough for some anchors and nothing more; other data yield no candidates.
-/

namespace TangibleBlocks.Shape

open Tensor (boxFields)

/-! ### Queries -/

/-- A number of anchors or classes. -/
def number? (text : String) : Option Nat :=
  readNatural? 64 text.toList

/-- A pair that can be understood. With other keys there is nothing to understand. -/
def Understood (pair : String × String) : Prop :=
  (pair.1 = "anchors" ∨ pair.1 = "classes" → ∃ n, number? pair.2 = some n) ∧
    (pair.1 = "layout" → pair.2 ∈ ["anchor", "anchor-major", "channel", "channel-major"])

/-- What the last pair with a key says. -/
def told? {α : Type} (key : String) (read? : String → Option α)
    (pairs : List (String × String)) : Option α :=
  (pairs.filter fun p => p.1 = key).getLast?.bind fun p => read? p.2

/-- The shape after one more pair of a query. -/
def tell (s : Shape) (pair : String × String) : Shape where
  anchors := if pair.1 = "anchors" then number? pair.2 else s.anchors
  classes := if pair.1 = "classes" then number? pair.2 else s.classes
  layout := if pair.1 = "layout" then (Layout.ofName? pair.2).getD s.layout else s.layout

variable {s t : Shape} {pair : String × String} {pairs : List (String × String)}

theorem exists_ofName?_iff {text : String} :
    (∃ l, Layout.ofName? text = some l) ↔
      text ∈ ["anchor", "anchor-major", "channel", "channel-major"] := by
  simp only [Layout.ofName?, List.mem_cons, List.not_mem_nil, or_false]
  split
  next h => exact iff_of_true ⟨_, rfl⟩ (h.imp_right .inl)
  next h =>
    split
    next h' => exact iff_of_true ⟨_, rfl⟩ (.inr (.inr h'))
    next h' => simp_all

/-- A pair is either understood or refused, whatever has been told before it. -/
theorem update_cases (s : Shape) (pair : String × String) :
    (Understood pair ∧ s.update pair = .ok (s.tell pair)) ∨
      (¬ Understood pair ∧ s.update pair = .error (.invalidQuery pair.1 pair.2)) := by
  obtain ⟨key, value⟩ := pair
  have hnumber : readNatural? 64 value.toList = number? value := rfl
  simp only [update, tell, Understood, hnumber, ← exists_ofName?_iff]
  split
  next hkey =>
    subst hkey
    cases number? value <;> simp
  next hanchors =>
    split
    next hkey =>
      subst hkey
      cases number? value <;> simp
    next hclasses =>
      split
      next hkey =>
        subst hkey
        cases Layout.ofName? value <;> simp
      next hlayout => simp [hanchors, hclasses, hlayout]

theorem update_eq_ok_iff : s.update pair = .ok t ↔ Understood pair ∧ t = s.tell pair := by
  rcases update_cases s pair with ⟨hpair, hupdate⟩ | ⟨hpair, hupdate⟩
  · simp [hpair, hupdate, eq_comm]
  · simp [hpair, hupdate]

theorem update_eq_error_iff {fault : Fault} :
    s.update pair = .error fault ↔ ¬ Understood pair ∧ fault = .invalidQuery pair.1 pair.2 := by
  rcases update_cases s pair with ⟨hpair, hupdate⟩ | ⟨hpair, hupdate⟩
  · simp [hpair, hupdate]
  · simp [hpair, hupdate, eq_comm]

theorem told?_concat {α : Type} (key : String) (read? : String → Option α)
    (pairs : List (String × String)) (pair : String × String) :
    told? key read? (pairs ++ [pair]) =
      if pair.1 = key then read? pair.2 else told? key read? pairs := by
  rw [told?, List.filter_append, List.getLast?_append]
  split
  next h => simp [h]
  next h => simp [h, told?]

/-- The shape that the last pairs with the keys tell. -/
def lastTold (pairs : List (String × String)) : Shape where
  anchors := told? "anchors" number? pairs
  classes := told? "classes" number? pairs
  layout := (told? "layout" Layout.ofName? pairs).getD .byAnchor

theorem foldl_tell (h : ∀ p ∈ pairs, Understood p) : pairs.foldl tell unknown = lastTold pairs := by
  induction pairs using List.reverseRecOn with
  | nil => rfl
  | append_singleton pairs pair ih =>
      have hpair : Understood pair := h pair (by simp)
      rw [List.foldl_append, ih fun p hp => h p (List.mem_append_left _ hp)]
      simp only [List.foldl_cons, List.foldl_nil, tell, lastTold, told?_concat]
      -- A layout that is told has a name, so the one before it is never the one to fall back on.
      congr 1
      split
      next hkey =>
        obtain ⟨l, hl⟩ := exists_ofName?_iff.mpr (hpair.2 hkey)
        rw [hl, Option.getD_some, Option.getD_some]
      next => rfl

theorem ofQuery_eq_ok_iff :
    ofQuery pairs = .ok s ↔ (∀ p ∈ pairs, Understood p) ∧ s = lastTold pairs := by
  have hstep : ∀ s pair t, update s pair = .ok t ↔ Understood pair ∧ t = tell s pair :=
    fun _ _ _ => update_eq_ok_iff
  rw [ofQuery, foldlM_eq_ok_iff hstep]
  refine and_congr_right fun h => ?_
  rw [foldl_tell h]

/-- The first pair is refused that cannot be understood. -/
theorem ofQuery_eq_error_iff {fault : Fault} :
    ofQuery pairs = .error fault ↔
      ∃ before p after, pairs = before ++ p :: after ∧ (∀ q ∈ before, Understood q) ∧
        ¬ Understood p ∧ fault = .invalidQuery p.1 p.2 := by
  rw [ofQuery, foldlM_eq_error_iff]
  refine exists_congr fun before => exists_congr fun p => exists_congr fun after => ?_
  constructor
  · rintro ⟨t, hsplit, hbefore, hp⟩
    exact ⟨hsplit, (ofQuery_eq_ok_iff.mp hbefore).1, update_eq_error_iff.mp hp⟩
  · rintro ⟨hsplit, hbefore, hp⟩
    exact ⟨lastTold before, hsplit, ofQuery_eq_ok_iff.mpr ⟨hbefore, rfl⟩,
      update_eq_error_iff.mpr hp⟩

/-! ### Vocabularies and data -/

theorem withClasses_eq_error_iff {n : Nat} {fault : Fault} :
    s.withClasses n = .error fault ↔
      ∃ c, s.classes = some c ∧ c ≠ n ∧ fault = .classMismatch c n := by
  rw [withClasses]
  cases s.classes with
  | none => simp
  | some c =>
      by_cases hc : c = n
      · simp [hc]
      · simp [hc, eq_comm (a := fault)]

theorem eq_of_withClasses {n : Nat} (h : s.withClasses n = .ok t) :
    t = { s with classes := some n } := by
  obtain ⟨anchors, classes, layout⟩ := s
  cases classes with
  | none => exact (Except.ok.inj h).symm
  | some c =>
      simp only [withClasses] at h
      split at h
      next hc =>
        subst hc
        exact (Except.ok.inj h).symm
      next => cases h

/-- A shape that is good for a vocabulary asks for few numbers for each anchor. -/
theorem stride_le_of_withClasses {v : Vocabulary} (hv : v.blocks.toList ⊆ Block.standard)
    (h : s.withClasses v.size = .ok t) : boxFields + t.classCount ≤ 24 := by
  obtain rfl := eq_of_withClasses h
  exact Nat.add_le_add_left (Vocabulary.size_le_of_subset_standard hv) boxFields

/-- Data fit if they are enough for the anchors that were told, or for some anchors where none were
told, and nothing is left over. -/
theorem fits_tensor_iff {n : Nat} (hs : s.classes = some n) {data : Array Binary32} :
    (s.tensor data).Fits n ↔
      (∃ a, s.anchors = some a ∧ 0 < a ∧ data.size = a * (boxFields + n)) ∨
        (s.anchors = none ∧ 0 < data.size ∧ boxFields + n ∣ data.size) := by
  have hcount : s.classCount = n := by rw [classCount, hs, Option.getD_some]
  have hstride : 0 < boxFields + n := Nat.add_pos_left (by decide) n
  show 0 < s.anchorCount data.size ∧ data.size = s.anchorCount data.size * (boxFields + n) ↔ _
  rw [anchorCount, hcount]
  cases s.anchors with
  | some a => simp
  | none =>
      simp only [Option.getD_none, reduceCtorEq, false_and, exists_false, false_or, true_and]
      split
      next hmod =>
        have hdvd : boxFields + n ∣ data.size := Nat.dvd_of_mod_eq_zero hmod
        simp only [hdvd, Nat.div_mul_cancel hdvd, and_true]
        exact ⟨fun h => Nat.pos_of_div_pos h, fun h => Nat.div_pos (Nat.le_of_dvd h hdvd) hstride⟩
      next hmod =>
        have hdvd : ¬ boxFields + n ∣ data.size := fun h => hmod (Nat.mod_eq_zero_of_dvd h)
        simp [hdvd]

theorem anchors_of_fits {n : Nat} {t : Tensor} (h : t.Fits n) :
    t.anchors = t.size / (boxFields + n) := by
  rw [h.2, Nat.mul_div_cancel _ (Nat.add_pos_left (by decide) n)]

/-- A query tells a shape exactly if its numbers of anchors and classes are numbers and its layouts
have names; otherwise the first pair is refused that is at fault. The last pairs with the three keys
make the shape. A vocabulary is refused exactly if another number of classes was told. Otherwise
data of this shape fit the vocabulary if they are as many as the number of anchors that was told
needs, where that is positive, or, where none was told, a positive multiple of what an anchor needs;
the quotient is then the number of anchors. No candidates are read from any other data. -/
theorem ofQuery_withClasses_fits (pairs : List (String × String)) :
    ((∃ s, ofQuery pairs = .ok s) ↔ ∀ p ∈ pairs, Understood p) ∧
      (∀ fault, ofQuery pairs = .error fault ↔
        ∃ before p after, pairs = before ++ p :: after ∧ (∀ q ∈ before, Understood q) ∧
          ¬ Understood p ∧ fault = .invalidQuery p.1 p.2) ∧
      ∀ s, ofQuery pairs = .ok s →
        s.anchors = told? "anchors" number? pairs ∧
        s.classes = told? "classes" number? pairs ∧
        s.layout = (told? "layout" Layout.ofName? pairs).getD .byAnchor ∧
        ∀ v : Vocabulary,
          (∀ fault, s.withClasses v.size = .error fault ↔
            ∃ c, s.classes = some c ∧ c ≠ v.size ∧ fault = .classMismatch c v.size) ∧
          ∀ s', s.withClasses v.size = .ok s' → ∀ data,
            ((s'.tensor data).Fits v.size ↔
              (∃ a, s.anchors = some a ∧ 0 < a ∧ data.size = a * (boxFields + v.size)) ∨
                (s.anchors = none ∧ 0 < data.size ∧ boxFields + v.size ∣ data.size)) ∧
            ((s'.tensor data).Fits v.size →
              (s'.tensor data).anchors = data.size / (boxFields + v.size)) ∧
            (¬ (s'.tensor data).Fits v.size →
              ∀ threshold, (s'.tensor data).candidates v threshold = []) := by
  refine ⟨by simp [ofQuery_eq_ok_iff], fun fault => ofQuery_eq_error_iff, fun s hs => ?_⟩
  obtain ⟨-, rfl⟩ := ofQuery_eq_ok_iff.mp hs
  refine ⟨rfl, rfl, rfl, fun v => ⟨fun fault => withClasses_eq_error_iff, fun s' hs' data => ?_⟩⟩
  obtain rfl := eq_of_withClasses hs'
  exact ⟨fits_tensor_iff rfl, anchors_of_fits, fun hfits threshold => if_neg hfits⟩

end TangibleBlocks.Shape
