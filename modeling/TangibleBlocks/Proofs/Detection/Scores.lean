import Mathlib.Data.List.Forall2
import TangibleBlocks.Proofs.Detection.Words
import TangibleBlocks.Proofs.Number.Order

/-!
Which anchors become candidates, and with what scores. An anchor stands for the
first class that has its highest score, where a NaN is no score at all, and it
becomes a candidate if that score is above the threshold. The search begins with
the least finite number, however, and a score is only asked whether it is at most
the threshold. So all this holds for thresholds that are finite or infinite
upwards. With a NaN nothing is left out, and below all finite numbers an anchor
without any finite score becomes a candidate whose score is stored nowhere.
-/

namespace TangibleBlocks

theorem Vocabulary.lt_size_of_block? {v : Vocabulary} {number : Nat} {b : Block}
    (hb : v.block? number = some b) : number < v.size :=
  (Array.getElem?_eq_some_iff.mp hb).1

/-- Members that are mapped to something correspond to what they are mapped to, in their order. -/
theorem forall₂_filter_filterMap {α β : Type} {R : α → β → Prop} {p : α → Bool}
    {f : α → Option β} {as : List α}
    (hsome : ∀ a ∈ as, p a = true → ∃ b, f a = some b ∧ R a b)
    (hnone : ∀ a ∈ as, p a = false → f a = none) :
    List.Forall₂ R (as.filter p) (as.filterMap f) := by
  induction as with
  | nil => exact .nil
  | cons a as ih =>
      obtain ⟨ha, hsome⟩ := List.forall_mem_cons.mp hsome
      obtain ⟨ha', hnone⟩ := List.forall_mem_cons.mp hnone
      cases hp : p a with
      | true =>
          obtain ⟨b, hb, hab⟩ := ha hp
          rw [List.filter_cons_of_pos hp, List.filterMap_cons_some hb]
          exact .cons hab (ih hsome hnone)
      | false =>
          rw [List.filter_cons_of_neg (by simp [hp]), List.filterMap_cons_none (ha' hp)]
          exact ih hsome hnone

theorem sublistForall₂_filterMap {α β : Type} {R : β → α → Prop} {f : α → Option β} {as : List α}
    (hR : ∀ a ∈ as, ∀ b, f a = some b → R b a) :
    List.SublistForall₂ R (as.filterMap f) as := by
  induction as with
  | nil => exact .nil
  | cons a as ih =>
      obtain ⟨ha, hR⟩ := List.forall_mem_cons.mp hR
      cases hf : f a with
      | none =>
          rw [List.filterMap_cons_none hf]
          exact .cons_right (ih hR)
      | some b =>
          rw [List.filterMap_cons_some hf]
          exact .cons (ha b hf) (ih hR)

theorem exists_of_mem_sublistForall₂ {α β : Type} {R : β → α → Prop} {bs : List β} {as : List α}
    (h : List.SublistForall₂ R bs as) {b : β} (hb : b ∈ bs) : ∃ a ∈ as, R b a := by
  obtain ⟨part, hpart, hsublist⟩ := List.sublistForall₂_iff.mp h
  obtain ⟨i, hi, rfl⟩ := List.getElem_of_mem hb
  have hlength : i < part.length := hpart.length_eq ▸ hi
  exact ⟨part[i], hsublist.subset (List.getElem_mem hlength), hpart.get hi hlength⟩

/-! ### The first of the highest scores -/

/-- Among `n` classes with the given scores, class `c` is the first one with the highest score. -/
structure FirstHighest (score : Nat → Binary32) (n c : Nat) : Prop where
  lt : c < n
  isNaN : (score c).isNaN = false
  highest : ∀ e < n, (score e).isNaN = false → score e ≤ score c
  first : ∀ e < c, ¬ score c ≤ score e

namespace FirstHighest

open Binary32

variable {score : Nat → Binary32} {n c : Nat}

/-- One more class has a higher score than all the others. -/
theorem of_forall_lt (hn : (score n).isNaN = false)
    (hlt : ∀ e < n, (score e).isNaN = false → score e < score n) :
    FirstHighest score (n + 1) n where
  lt := by omega
  isNaN := hn
  highest := by
    intro e he hnumber
    rcases Nat.lt_succ_iff_lt_or_eq.mp he with he | rfl
    · exact le_of_lt (hlt e he hnumber)
    · exact le_self hn
  first := by
    intro e he hle
    have hnumber : (score e).isNaN = false := (le_iff.mp hle).2.1
    exact not_lt_self _ (lt_of_le_of_lt hle (hlt e he hnumber))

/-- The score of one more class is not higher. -/
theorem of_not_lt (h : FirstHighest score n c) (hn : ¬ score c < score n) :
    FirstHighest score (n + 1) c where
  lt := Nat.lt_succ_of_lt h.lt
  isNaN := h.isNaN
  highest := by
    intro e he hnumber
    rcases Nat.lt_succ_iff_lt_or_eq.mp he with he | rfl
    · exact h.highest e he hnumber
    · exact (not_lt_iff_le h.isNaN hnumber).mp hn
  first := h.first

end FirstHighest

namespace Tensor

open Binary32 (lowest)

/-- The score that is stored for a class of an anchor. -/
def score (t : Tensor) (classes anchor c : Nat) : Binary32 :=
  t.field classes anchor (boxFields + c)

/-- What the search for the best class has come to after `n` classes. -/
theorem scan_cases (t : Tensor) (classes anchor n : Nat) :
    let best := (List.range n).foldl (t.better classes anchor) (lowest, 0)
    let score := t.score classes anchor
    (best = (lowest, 0) ∧ ∀ c < n, ¬ lowest < score c) ∨
      ∃ c, best = (score c, c) ∧ lowest < score c ∧ FirstHighest score n c := by
  intro best score
  induction n with
  | zero => exact .inl ⟨rfl, nofun⟩
  | succ n ih =>
      have hbest : best = t.better classes anchor
          ((List.range n).foldl (t.better classes anchor) (lowest, 0)) n := by
        simp only [best, List.range_succ, List.foldl_append, List.foldl_cons, List.foldl_nil]
      rw [hbest]
      rcases ih with ⟨hstart, hnone⟩ | ⟨c, hc, hlowest, hfirst⟩
      · rw [hstart]
        by_cases hn : lowest < score n
        · -- All the scores before are at most where the search begins, so this one is higher.
          refine .inr ⟨n, if_pos hn, hn, ?_⟩
          have hnumber : (score n).isNaN = false := Binary32.isNaN_right_of_lt hn
          refine .of_forall_lt hnumber fun e he hnumber => ?_
          have hle : score e ≤ lowest :=
            (Binary32.not_lt_iff_le (by decide) hnumber).mp (hnone e he)
          exact Binary32.lt_of_le_of_lt hle hn
        · refine .inl ⟨if_neg hn, fun e he => ?_⟩
          rcases Nat.lt_succ_iff_lt_or_eq.mp he with he | rfl
          · exact hnone e he
          · exact hn
      · rw [hc]
        by_cases hn : score c < score n
        · refine .inr ⟨n, if_pos hn, ?_, ?_⟩
          · exact Binary32.lt_of_lt_of_le hlowest (Binary32.le_of_lt hn)
          · refine .of_forall_lt (Binary32.isNaN_right_of_lt hn) fun e he hnumber => ?_
            exact Binary32.lt_of_le_of_lt (hfirst.highest e he hnumber) hn
        · exact .inr ⟨c, if_neg hn, hlowest, hfirst.of_not_lt hn⟩

/-- The best class of an anchor, or what the search begins with if no score exceeds that. -/
theorem best_cases (t : Tensor) (classes anchor : Nat) :
    (t.best classes anchor = (lowest, 0) ∧ ∀ c < classes, ¬ lowest < t.score classes anchor c) ∨
      ∃ c, t.best classes anchor = (t.score classes anchor c, c) ∧
        lowest < t.score classes anchor c ∧ FirstHighest (t.score classes anchor) classes c :=
  t.scan_cases classes anchor classes

theorem best_lt (t : Tensor) {classes : Nat} (hclasses : 0 < classes) (anchor : Nat) :
    (t.best classes anchor).2 < classes := by
  rcases t.best_cases classes anchor with ⟨hbest, -⟩ | ⟨c, hbest, -, hfirst⟩
  · rwa [hbest]
  · rw [hbest]
    exact hfirst.lt

theorem isNaN_best (t : Tensor) (classes anchor : Nat) :
    (t.best classes anchor).1.isNaN = false := by
  rcases t.best_cases classes anchor with ⟨hbest, -⟩ | ⟨c, hbest, -, hfirst⟩
  · rw [hbest]
    rfl
  · rw [hbest]
    exact hfirst.isNaN

/-! ### Candidates -/

/-- The box of a detection is stored for an anchor, and its block is the one with its number. -/
structure ReadFrom (t : Tensor) (v : Vocabulary) (anchor : Nat) (d : Detection) : Prop where
  centerX : d.centerX = t.field v.size anchor 0
  centerY : d.centerY = t.field v.size anchor 1
  width : d.width = t.field v.size anchor 2
  height : d.height = t.field v.size anchor 3
  block : v.block? d.classId = some d.block

variable {t : Tensor} {v : Vocabulary} {threshold : Binary32} {anchor : Nat}

theorem exists_block?_best (t : Tensor) (hv : 0 < v.size) (anchor : Nat) :
    ∃ b, v.block? (t.best v.size anchor).2 = some b :=
  ⟨_, Array.getElem?_eq_getElem (t.best_lt hv anchor)⟩

theorem candidate?_eq_none (h : (t.best v.size anchor).1 ≤ threshold) :
    t.candidate? v threshold anchor = none :=
  if_pos h

theorem readFrom_of_candidate? {d : Detection} (h : t.candidate? v threshold anchor = some d) :
    t.ReadFrom v anchor d ∧ t.best v.size anchor = (d.score, d.classId) ∧
      ¬ d.score ≤ threshold := by
  simp only [candidate?] at h
  split at h
  · cases h
  next hscore =>
    obtain ⟨b, hb, rfl⟩ := Option.map_eq_some_iff.mp h
    exact ⟨⟨rfl, rfl, rfl, rfl, hb⟩, rfl, hscore⟩

theorem exists_candidate? (hv : 0 < v.size) (h : ¬ (t.best v.size anchor).1 ≤ threshold) :
    ∃ d, t.candidate? v threshold anchor = some d := by
  obtain ⟨b, hb⟩ := t.exists_block?_best hv anchor
  simp only [candidate?]
  rw [if_neg h, hb]
  exact ⟨_, rfl⟩

theorem exists_of_mem_candidates {d : Detection} (h : d ∈ t.candidates v threshold) :
    ∃ anchor < t.anchors, t.candidate? v threshold anchor = some d := by
  unfold candidates at h
  split at h
  · obtain ⟨anchor, hanchor, hd⟩ := List.mem_filterMap.mp h
    exact ⟨anchor, List.mem_range.mp hanchor, hd⟩
  · cases h

/-- Some class of an anchor has a score above the threshold. -/
def Exceeds (t : Tensor) (classes : Nat) (threshold : Binary32) (anchor : Nat) : Prop :=
  ∃ c < classes, threshold < t.score classes anchor c

instance (t : Tensor) (classes : Nat) (threshold : Binary32) :
    DecidablePred (t.Exceeds classes threshold) :=
  fun _ => inferInstanceAs (Decidable (∃ _, _ ∧ _))

theorem candidate?_of_exceeds (hv : 0 < v.size) (hthreshold : lowest ≤ threshold)
    (h : t.Exceeds v.size threshold anchor) :
    ∃ d, t.candidate? v threshold anchor = some d ∧ t.ReadFrom v anchor d ∧
      d.score = t.score v.size anchor d.classId ∧
      FirstHighest (t.score v.size anchor) v.size d.classId := by
  obtain ⟨e, he, habove⟩ := h
  rcases t.best_cases v.size anchor with ⟨-, hnone⟩ | ⟨c, hbest, -, hfirst⟩
  · exact absurd (Binary32.lt_of_le_of_lt hthreshold habove) (hnone e he)
  · -- The highest score is above the threshold because some score is.
    have hle : t.score v.size anchor e ≤ t.score v.size anchor c :=
      hfirst.highest e he (Binary32.isNaN_right_of_lt habove)
    have hnot : ¬ t.score v.size anchor c ≤ threshold := fun h =>
      Binary32.not_lt_self _ (Binary32.lt_of_lt_of_le (Binary32.lt_of_le_of_lt h habove) hle)
    obtain ⟨d, hd⟩ := exists_candidate? hv (by rwa [hbest])
    obtain ⟨hread, hsame, -⟩ := readFrom_of_candidate? hd
    obtain ⟨hscore, rfl⟩ := Prod.mk.inj (hbest.symm.trans hsame)
    exact ⟨d, hd, hread, hscore.symm, hfirst⟩

theorem candidate?_of_not_exceeds (hthreshold : lowest ≤ threshold)
    (h : ¬ t.Exceeds v.size threshold anchor) : t.candidate? v threshold anchor = none := by
  apply candidate?_eq_none
  rcases t.best_cases v.size anchor with ⟨hbest, -⟩ | ⟨c, hbest, -, hfirst⟩
  · rwa [hbest]
  · rw [hbest]
    have hnumber : threshold.isNaN = false := (Binary32.le_iff.mp hthreshold).2.1
    exact (Binary32.not_lt_iff_le hnumber hfirst.isNaN).mp fun habove => h ⟨c, hfirst.lt, habove⟩

/-- Every anchor has a class in a vocabulary that is not empty, so nothing is reported about it. -/
theorem anchorNotes_eq_nil (t : Tensor) (hv : 0 < v.size) (threshold : Binary32) (anchor : Nat) :
    t.anchorNotes v threshold anchor = [] := by
  obtain ⟨b, hb⟩ := t.exists_block?_best hv anchor
  simp [anchorNotes, hb]

/-- In a tensor that fits, the anchors with a score above the threshold, and no others, yield one
candidate each, in their order. -/
theorem forall₂_candidates (hv : 0 < v.size) (hthreshold : lowest ≤ threshold)
    (hfits : t.Fits v.size) :
    List.Forall₂
      (fun anchor d => t.ReadFrom v anchor d ∧
        d.score = t.score v.size anchor d.classId ∧
        FirstHighest (t.score v.size anchor) v.size d.classId)
      ((List.range t.anchors).filter fun anchor => t.Exceeds v.size threshold anchor)
      (t.candidates v threshold) := by
  rw [candidates, if_pos hfits]
  apply forall₂_filter_filterMap
  · intro anchor _ hexceeds
    exact candidate?_of_exceeds hv hthreshold (of_decide_eq_true hexceeds)
  · intro anchor _ hexceeds
    exact candidate?_of_not_exceeds hthreshold (of_decide_eq_false hexceeds)

/-- A tensor that fails the test that it fits the vocabulary yields nothing. In any other one whose
number of fields is a word the anchors with a score above the threshold, and no others, are decoded
to one candidate each, in their order: its box is the one stored for the anchor, its class is the
first one with the highest score, and its score is the one stored for that class. For no anchor
there is a class without a block. Where the number of fields is no word, a tensor that passes the
test is not decoded at all. -/
theorem decode_of_exceeding (t : Tensor) (v : Vocabulary) (threshold : Binary32)
    (hv : 0 < v.size) (hthreshold : threshold.IsFinite ∨ threshold = .infinity) :
    (¬ t.FitsInWords v.size → t.decode v threshold = .ok []) ∧
      (t.FitsInWords v.size → t.anchors * (boxFields + v.size) < UInt64.size →
        ∃ ds, t.decode v threshold = .ok ds ∧
          List.Forall₂
            (fun anchor d => t.ReadFrom v anchor d ∧
              d.score = t.score v.size anchor d.classId ∧
              FirstHighest (t.score v.size anchor) v.size d.classId)
            ((List.range t.anchors).filter fun anchor => t.Exceeds v.size threshold anchor) ds) ∧
      (t.OnMachine → ((∃ ds, t.decode v threshold = .ok ds) ↔
        (t.FitsInWords v.size → t.anchors * (boxFields + v.size) < UInt64.size))) ∧
      ∀ anchor, (∃ b, v.block? (t.best v.size anchor).2 = some b) ∧
        t.anchorNotes v threshold anchor = [] := by
  have hlowest : lowest ≤ threshold := Binary32.lowest_le_iff.mpr hthreshold
  refine ⟨decode_eq_nil, fun hwords hword => ?_, fun ht => ⟨?_, fun h => ?_⟩, fun anchor => ?_⟩
  · have hfits : t.Fits v.size := (fitsInWords_iff hword).mp hwords
    exact ⟨t.candidates v threshold, decode_eq_ok hword threshold,
      forall₂_candidates hv hlowest hfits⟩
  · rintro ⟨ds, hds⟩ hwords
    by_contra hword
    obtain ⟨o, ho⟩ := decode_eq_error ht hv (Nat.not_lt.mp hword) hwords threshold
    rw [ho] at hds
    cases hds
  · by_cases hwords : t.FitsInWords v.size
    · exact ⟨t.candidates v threshold, decode_eq_ok (h hwords) threshold⟩
    · exact ⟨[], decode_eq_nil hwords⟩
  · exact ⟨t.exists_block?_best hv anchor, t.anchorNotes_eq_nil hv threshold anchor⟩

/-- A NaN in front of two equal scores, a score at the threshold, and the positive infinity. -/
theorem decode_of_exceeding_zero :
    let v : Vocabulary := ⟨#[.walk, .jump, .pickUp], by decide⟩
    let box : Array Binary32 := #[.hundred, .hundred, .two, .two]
    let t : Tensor := ⟨box ++ #[.nan, .two, .two] ++ box ++ #[.zero, .nan, .zero] ++
      box ++ #[.two, .nan, .infinity], 3, .byAnchor⟩
    0 < v.size ∧ (Binary32.zero.IsFinite ∨ Binary32.zero = .infinity) ∧ t.FitsInWords v.size ∧
      t.anchors * (boxFields + v.size) < UInt64.size ∧
      ∃ ds, t.decode v .zero = .ok ds ∧
        List.Forall₂
          (fun anchor d => t.ReadFrom v anchor d ∧
            d.score = t.score v.size anchor d.classId ∧
            FirstHighest (t.score v.size anchor) v.size d.classId)
          [0, 2] ds := by
  intro v box t
  have hv : 0 < v.size := by decide
  have hthreshold : Binary32.zero.IsFinite ∨ Binary32.zero = .infinity := .inl ⟨rfl, rfl⟩
  have hfits : t.FitsInWords v.size := by decide
  have hword : t.anchors * (boxFields + v.size) < UInt64.size := by decide
  have hanchors : (List.range t.anchors).filter (fun anchor => t.Exceeds v.size .zero anchor) =
      [0, 2] := by decide
  obtain ⟨-, hdecode, -⟩ := t.decode_of_exceeding v .zero hv hthreshold
  exact ⟨hv, hthreshold, hfits, hword, hanchors ▸ hdecode hfits hword⟩

/-- The rows of a tensor that passes the test without any data, though it does not fit: nothing
comes of it, not even the empty list. -/
theorem rows_beyond_data :
    (hollow .byAnchor).OnMachine ∧ ¬ (hollow .byAnchor).Fits Vocabulary.standard.size ∧
      (hollow .byAnchor).FitsInWords Vocabulary.standard.size ∧ Binary32.zero.IsFinite ∧
      ¬ ∃ ds, (hollow .byAnchor).decode .standard .zero = .ok ds := by
  refine ⟨by decide, by decide, by decide, ⟨rfl, rfl⟩, ?_⟩
  rintro ⟨ds, hds⟩
  have hdecode : (hollow .byAnchor).decode .standard .zero = .error ⟨4, 0⟩ := rfl
  rw [hdecode] at hds
  cases hds

/-! ### Scores that are stored nowhere -/

/-- All candidates have scores that are stored for their anchors and that exceed the threshold. -/
def Genuine (t : Tensor) (v : Vocabulary) (threshold : Binary32) : Prop :=
  List.SublistForall₂
    (fun d anchor => t.ReadFrom v anchor d ∧
      d.score = t.score v.size anchor d.classId ∧ threshold < d.score)
    (t.candidates v threshold) (List.range t.anchors)

/-- Candidates belong to anchors in their order. What is true of the candidate of any anchor is true
of all of them. -/
theorem sublistForall₂_candidates {R : Detection → Nat → Prop}
    (hR : ∀ anchor d, t.candidate? v threshold anchor = some d → R d anchor) :
    List.SublistForall₂ R (t.candidates v threshold) (List.range t.anchors) := by
  unfold candidates
  split
  · exact sublistForall₂_filterMap fun anchor _ d hd => hR anchor d hd
  · exact .nil

/-- Where the score of a candidate comes from. -/
theorem score_cases {d : Detection} (h : t.candidate? v threshold anchor = some d) :
    (d.score = t.score v.size anchor d.classId ∧ lowest < d.score) ∨
      (d.score = lowest ∧ d.classId = 0 ∧
        ∀ c < v.size, ¬ lowest < t.score v.size anchor c) := by
  obtain ⟨-, hbest, -⟩ := readFrom_of_candidate? h
  rcases t.best_cases v.size anchor with ⟨hstart, hnone⟩ | ⟨c, hc, hlowest, -⟩
  · obtain ⟨hscore, hclass⟩ := Prod.mk.inj (hbest.symm.trans hstart)
    exact .inr ⟨hscore, hclass, hnone⟩
  · obtain ⟨hscore, rfl⟩ := Prod.mk.inj (hbest.symm.trans hc)
    exact .inl ⟨hscore, hscore ▸ hlowest⟩

theorem isNaN_score_of_candidate? {d : Detection}
    (h : t.candidate? v threshold anchor = some d) : d.score.isNaN = false := by
  obtain ⟨-, hbest, -⟩ := readFrom_of_candidate? h
  have hnumber := t.isNaN_best v.size anchor
  rwa [hbest] at hnumber

/-- A candidate has a score above the threshold, unless that is a NaN. -/
theorem lt_score_of_candidate? {d : Detection} (h : t.candidate? v threshold anchor = some d) :
    threshold.isNaN = true ∨ threshold < d.score := by
  obtain ⟨-, -, hscore⟩ := readFrom_of_candidate? h
  cases hthreshold : threshold.isNaN with
  | true => exact .inl rfl
  | false =>
      exact .inr ((Binary32.not_le_iff_lt (isNaN_score_of_candidate? h) hthreshold).mp hscore)

theorem genuine_of_lowest_le (t : Tensor) (hthreshold : lowest ≤ threshold) :
    t.Genuine v threshold := by
  apply sublistForall₂_candidates
  intro anchor d hd
  obtain ⟨hread, -, hscore⟩ := readFrom_of_candidate? hd
  refine ⟨hread, ?_, ?_⟩
  · rcases score_cases hd with ⟨hstored, -⟩ | ⟨hstart, -, -⟩
    · exact hstored
    · rw [hstart] at hscore
      exact absurd hthreshold hscore
  · obtain ⟨-, hnumber, -⟩ := Binary32.le_iff.mp hthreshold
    exact (Binary32.not_le_iff_lt (isNaN_score_of_candidate? hd) hnumber).mp hscore

theorem genuine_of_size_eq_zero (t : Tensor) (hv : v.size = 0) : t.Genuine v threshold := by
  apply sublistForall₂_candidates
  intro anchor d hd
  obtain ⟨hread, -, -⟩ := readFrom_of_candidate? hd
  have hclass : d.classId < v.size := Vocabulary.lt_size_of_block? hread.block
  omega

theorem Genuine.exists_of_mem (h : t.Genuine v threshold) {d : Detection}
    (hd : d ∈ t.candidates v threshold) :
    ∃ anchor < t.anchors, d.score = t.score v.size anchor d.classId ∧ threshold < d.score := by
  obtain ⟨anchor, hanchor, -, hscore⟩ := exists_of_mem_sublistForall₂ h hd
  exact ⟨anchor, List.mem_range.mp hanchor, hscore⟩

/-- One anchor, and nothing but NaNs. -/
def blank (classes : Nat) : Tensor :=
  ⟨.replicate (boxFields + classes) .nan, 1, .byAnchor⟩

theorem score_blank {classes c : Nat} (hc : c < classes) :
    (blank classes).score classes 0 c = .nan := by
  simp [score, field, blank, index, hc]

/-- Where nothing is stored but NaNs, the score that the search begins with is found. -/
theorem not_genuine_blank (hv : 0 < v.size) (hthreshold : ¬ lowest ≤ threshold) :
    ¬ (blank v.size).Genuine v threshold := by
  intro hgenuine
  have hbest : (blank v.size).best v.size 0 = (lowest, 0) := by
    rcases (blank v.size).best_cases v.size 0 with ⟨hbest, -⟩ | ⟨c, -, -, hfirst⟩
    · exact hbest
    · have hnumber := hfirst.isNaN
      rw [score_blank hfirst.lt] at hnumber
      cases hnumber
  have hfits : (blank v.size).Fits v.size := ⟨Nat.one_pos, by simp [blank, size]⟩
  have hscore : ¬ ((blank v.size).best v.size 0).1 ≤ threshold := by rwa [hbest]
  obtain ⟨d, hd⟩ := exists_candidate? hv hscore
  obtain ⟨-, hsame, -⟩ := readFrom_of_candidate? hd
  obtain ⟨hscore, hclass⟩ := Prod.mk.inj (hbest.symm.trans hsame)
  have hmem : d ∈ (blank v.size).candidates v threshold := by
    rw [candidates, if_pos hfits]
    exact List.mem_filterMap.mpr ⟨0, List.mem_range.mpr Nat.one_pos, hd⟩
  obtain ⟨anchor, hanchor, hstored, -⟩ := hgenuine.exists_of_mem hmem
  obtain rfl : anchor = 0 := Nat.lt_one_iff.mp hanchor
  rw [← hscore, ← hclass, score_blank hv] at hstored
  cases hstored

/-- Every candidate has the score that is stored for its class, or else the least finite number,
where no class of its anchor has a score above that; and its score exceeds the threshold, unless
that is a NaN. All the scores are genuine for every tensor exactly if the threshold is finite or
infinite upwards, or if there are no classes. -/
theorem forall_genuine_iff (v : Vocabulary) (threshold : Binary32) :
    (∀ t : Tensor,
      List.SublistForall₂
        (fun d anchor => t.ReadFrom v anchor d ∧
          (threshold.isNaN = true ∨ threshold < d.score) ∧
          ((d.score = t.score v.size anchor d.classId ∧ lowest < d.score) ∨
            (d.score = lowest ∧ d.classId = 0 ∧
              ∀ c < v.size, ¬ lowest < t.score v.size anchor c)))
        (t.candidates v threshold) (List.range t.anchors)) ∧
      ((∀ t : Tensor, t.Genuine v threshold) ↔
        v.size = 0 ∨ threshold.IsFinite ∨ threshold = .infinity) := by
  rw [← Binary32.lowest_le_iff]
  refine ⟨fun t => ?_, fun hgenuine => ?_, ?_⟩
  · apply sublistForall₂_candidates
    intro anchor d hd
    exact ⟨(readFrom_of_candidate? hd).1, lt_score_of_candidate? hd, score_cases hd⟩
  · -- For all other thresholds there is one tensor that refutes it.
    by_contra hnot
    obtain ⟨hv, hthreshold⟩ := not_or.mp hnot
    exact not_genuine_blank (Nat.pos_of_ne_zero hv) hthreshold (hgenuine (blank v.size))
  · rintro (hv | hthreshold) t
    · exact t.genuine_of_size_eq_zero hv
    · exact t.genuine_of_lowest_le hthreshold

/-- Two scores, neither of them a number, and a threshold below all finite numbers: what is found is
stored nowhere. With a NaN for the threshold a stored score is found that does not exceed it. -/
theorem candidates_of_no_number :
    let v : Vocabulary := ⟨#[.walk, .jump], by decide⟩
    let t (score : Binary32) : Tensor :=
      ⟨#[.hundred, .hundred, .two, .two, score, .nan], 1, .byAnchor⟩
    let below : Binary32 := ⟨0xff800000⟩
    (t .nan).candidates v below = [⟨.hundred, .hundred, .two, .two, lowest, 0, .walk⟩] ∧
      ¬ (t .nan).Genuine v below ∧
      (t .two).candidates v .nan = [⟨.hundred, .hundred, .two, .two, .two, 0, .walk⟩] ∧
      ¬ (t .two).Genuine v .nan := by
  intro v t below
  have hinvented : (t .nan).candidates v below =
      [⟨.hundred, .hundred, .two, .two, lowest, 0, .walk⟩] := by decide
  have hkept : (t .two).candidates v .nan =
      [⟨.hundred, .hundred, .two, .two, .two, 0, .walk⟩] := by decide
  refine ⟨hinvented, fun hgenuine => ?_, hkept, fun hgenuine => ?_⟩
  · obtain ⟨anchor, hanchor, hstored, -⟩ :=
      hgenuine.exists_of_mem (hinvented ▸ List.mem_singleton_self _)
    obtain rfl : anchor = 0 := Nat.lt_one_iff.mp hanchor
    cases hstored
  · obtain ⟨-, -, -, habove⟩ := hgenuine.exists_of_mem (hkept ▸ List.mem_singleton_self _)
    cases habove

end Tensor

end TangibleBlocks
