import Mathlib.Data.List.Basic
import Mathlib.Data.List.TakeWhile
import TangibleBlocks.Text.Blank

/-!
Cutting texts. A text is cut at its first mark, or at all of them, and blanks are cut
off at its ends. Each time it is said what comes out by what the text is put together
from.
-/

namespace TangibleBlocks.Text

variable {mark : Char} {cs before after : List Char}

/-! ### Marks -/

theorem splitAt?_eq_some_iff :
    splitAt? mark cs = some (before, after) ↔ cs = before ++ mark :: after ∧ mark ∉ before := by
  induction cs generalizing before after with
  | nil => simp [splitAt?]
  | cons c cs ih =>
      rw [splitAt?]
      split
      next hc =>
        subst hc
        cases before with
        | nil => simp
        | cons b before => simp +contextual [eq_comm]
      next hc =>
        rw [Option.map_eq_some_iff]
        constructor
        · rintro ⟨⟨front, back⟩, hparts, hcons⟩
          obtain ⟨rfl, hfront⟩ := ih.mp hparts
          obtain ⟨rfl, rfl⟩ := Prod.mk.inj hcons
          exact ⟨rfl, List.not_mem_cons_of_ne_of_not_mem (Ne.symm hc) hfront⟩
        · rintro ⟨hcs, hbefore⟩
          cases before with
          | nil => exact absurd (List.cons.inj hcs).1 hc
          | cons b before =>
              obtain ⟨rfl, hrest⟩ := List.cons.inj hcs
              have hparts : splitAt? mark cs = some (before, after) :=
                ih.mpr ⟨hrest, List.not_mem_of_not_mem_cons hbefore⟩
              exact ⟨(before, after), hparts, rfl⟩

theorem splitAt?_append (h : mark ∉ before) :
    splitAt? mark (before ++ mark :: after) = some (before, after) :=
  splitAt?_eq_some_iff.mpr ⟨rfl, h⟩

theorem pieces_eq_splitOn : pieces mark cs = cs.splitOn mark := by
  induction cs with
  | nil => rfl
  | cons c cs ih =>
      rw [pieces, List.splitOn_cons_eq_if_modifyHead, ih]
      simp only [beq_iff_eq]
      split
      · rfl
      · split
        next h => exact absurd h (List.splitOn_ne_nil mark cs)
        next first rest h => rw [h, List.modifyHead_cons]

theorem pieces_of_notMem (h : mark ∉ cs) : pieces mark cs = [cs] := by
  rw [pieces_eq_splitOn, List.splitOn_eq_singleton h]

theorem pieces_append :
    pieces mark (before ++ mark :: after) = pieces mark before ++ pieces mark after := by
  simp only [pieces_eq_splitOn, List.splitOn_append_cons_self]

/-! ### Blanks -/

/-- Neither the first nor the last character is blank. -/
def Trimmed (cs : List Char) : Prop :=
  (∀ c ∈ cs.head?, isBlank c = false) ∧ ∀ c ∈ cs.getLast?, isBlank c = false

theorem trimmed_of_forall (h : ∀ c ∈ cs, isBlank c = false) : Trimmed cs :=
  ⟨fun c hc => h c (List.mem_of_mem_head? hc), fun c hc => h c (List.mem_of_mem_getLast? hc)⟩

theorem dropWhile_isBlank_append {blanks : List Char} (hblanks : ∀ c ∈ blanks, isBlank c = true)
    (hcs : ∀ c ∈ cs.head?, isBlank c = false) : (blanks ++ cs).dropWhile isBlank = cs := by
  rw [List.dropWhile_append_of_pos hblanks]
  cases cs with
  | nil => rfl
  | cons c cs =>
      have hc : isBlank c = false := hcs c rfl
      rw [List.dropWhile_cons, hc, if_neg Bool.false_ne_true]

theorem dropBlankEnd_append {blanks : List Char} (hblanks : ∀ c ∈ blanks, isBlank c = true)
    (hcs : ∀ c ∈ cs.getLast?, isBlank c = false) : dropBlankEnd (cs ++ blanks) = cs := by
  rw [dropBlankEnd, List.reverse_append, dropWhile_isBlank_append, List.reverse_reverse]
  · simpa using hblanks
  · simpa using hcs

/-- What is left of a text when its blank ends are cut off. -/
theorem trim_append {front back : List Char} (hfront : ∀ c ∈ front, isBlank c = true)
    (hback : ∀ c ∈ back, isBlank c = true) (hcs : Trimmed cs) :
    trim (front ++ cs ++ back) = cs := by
  cases cs with
  | nil =>
      have hall : ∀ c ∈ front ++ back, isBlank c = true :=
        List.forall_mem_append.mpr ⟨hfront, hback⟩
      have hnone : (front ++ back).dropWhile isBlank = [] := List.dropWhile_eq_nil_iff.mpr hall
      rw [trim, List.append_nil, hnone]
      rfl
  | cons c cs =>
      have hstart : (front ++ (c :: cs ++ back)).dropWhile isBlank = c :: cs ++ back :=
        dropWhile_isBlank_append hfront hcs.1
      rw [trim, List.append_assoc, hstart, dropBlankEnd_append hback hcs.2]

/-- What is cut off is blank. -/
theorem exists_eq_append_trim (cs : List Char) :
    ∃ front back, (∀ c ∈ front, isBlank c = true) ∧ (∀ c ∈ back, isBlank c = true) ∧
      cs = front ++ trim cs ++ back := by
  let rest := cs.dropWhile isBlank
  refine ⟨cs.takeWhile isBlank, (rest.reverse.takeWhile isBlank).reverse,
    fun c hc => List.mem_takeWhile_imp hc,
    fun c hc => List.mem_takeWhile_imp (List.mem_reverse.mp hc), ?_⟩
  have hrest : trim cs ++ (rest.reverse.takeWhile isBlank).reverse = rest := by
    rw [trim, dropBlankEnd, ← List.reverse_append, List.takeWhile_append_dropWhile,
      List.reverse_reverse]
  rw [List.append_assoc, hrest, List.takeWhile_append_dropWhile]

end TangibleBlocks.Text
