import Mathlib.Data.List.Lex
import Mathlib.Data.Nat.Digits.Defs
import TangibleBlocks.Proofs.Storage.Places
import TangibleBlocks.Sink.Folder

/-!
The names of the files in a folder. The running number has the same number of places in
all of them. So it can be told from a name, and names that tell the same time of day are in
the order of their numbers.
-/

namespace TangibleBlocks

/-! ### Digits in a fixed number of places -/

/-- The digits of a number in its last `width` places. -/
def lowDigits (base : Nat) : Nat → Nat → List Nat
  | 0, _ => []
  | width + 1, n => lowDigits base width (n / base) ++ [n % base]

variable {base width m n : Nat}

theorem length_lowDigits (base width n : Nat) : (lowDigits base width n).length = width := by
  induction width generalizing n with
  | zero => rfl
  | succ width ih => rw [lowDigits, List.length_append, ih, List.length_singleton]

theorem lt_of_mem_lowDigits (hbase : 0 < base) {d : Nat} (hd : d ∈ lowDigits base width n) :
    d < base := by
  induction width generalizing n with
  | zero => cases hd
  | succ width ih =>
      rw [lowDigits, List.mem_append, List.mem_singleton] at hd
      rcases hd with hd | rfl
      · exact ih hd
      · exact Nat.mod_lt n hbase

theorem div_lt_pow (hn : n < base ^ (width + 1)) : n / base < base ^ width :=
  Nat.div_lt_of_lt_mul (by rwa [Nat.pow_succ'] at hn)

theorem ofDigits_lowDigits (hn : n < base ^ width) :
    Nat.ofDigits base (lowDigits base width n).reverse = n := by
  induction width generalizing n with
  | zero =>
      rw [Nat.pow_zero] at hn
      rw [Nat.lt_one_iff.mp hn]
      rfl
  | succ width ih =>
      rw [lowDigits, List.reverse_append, List.reverse_singleton, List.singleton_append,
        Nat.ofDigits_cons, ih (div_lt_pow hn), Nat.mod_add_div]

theorem lowDigits_zero (base width : Nat) : lowDigits base width 0 = List.replicate width 0 := by
  induction width with
  | zero => rfl
  | succ width ih => rw [lowDigits, Nat.zero_div, Nat.zero_mod, ih, List.replicate_succ']

/-- Filling up with zeros makes numerals of one length. -/
theorem replicate_append_toDigits (hbase : 1 < base) (hn : n < base ^ (width + 1)) :
    List.replicate (width + 1 - (Nat.toDigits base n).length) '0' ++ Nat.toDigits base n =
      (lowDigits base (width + 1) n).map Nat.digitChar := by
  induction width generalizing n with
  | zero =>
      rw [Nat.pow_one] at hn
      simp [Nat.toDigits_of_lt_base hn, lowDigits, Nat.mod_eq_of_lt hn]
  | succ width ih =>
      rw [lowDigits, List.map_append, List.map_singleton]
      by_cases hlt : n < base
      · have hzeros : (lowDigits base (width + 1) (n / base)).map Nat.digitChar =
            List.replicate (width + 1) '0' := by
          rw [Nat.div_eq_of_lt hlt, lowDigits_zero, List.map_replicate]
          rfl
        rw [Nat.toDigits_of_lt_base hlt, hzeros, Nat.mod_eq_of_lt hlt]
        rfl
      · have hdigits := Nat.toDigits_of_base_le hbase (Nat.not_lt.mp hlt)
        rw [hdigits, List.length_append, List.length_singleton, Nat.add_sub_add_right,
          ← List.append_assoc, ih (div_lt_pow hn)]

theorem append_lt_append {l₁ l₂ : List Char} (h : l₁ < l₂) (hlength : l₁.length = l₂.length)
    (s t : List Char) : l₁ ++ s < l₂ ++ t := by
  induction l₁ generalizing l₂ with
  | nil =>
      rw [List.length_nil, eq_comm, List.length_eq_zero_iff] at hlength
      rw [hlength] at h
      cases h
  | cons a l₁ ih =>
      cases l₂ with
      | nil => cases hlength
      | cons b l₂ =>
          rw [List.cons_lt_cons_iff] at h
          rw [List.cons_append, List.cons_append, List.cons_lt_cons_iff]
          exact h.imp_right fun ⟨hab, hlt⟩ => ⟨hab, ih hlt (Nat.succ.inj hlength)⟩

/-- Numerals of one length have the order of the numbers if the digits have. -/
theorem map_lowDigits_lt {f : Nat → Char} (hf : ∀ d e, d < e → e < base → f d < f e)
    (hmn : m < n) (hn : n < base ^ width) :
    (lowDigits base width m).map f < (lowDigits base width n).map f := by
  induction width generalizing m n with
  | zero =>
      rw [Nat.pow_zero] at hn
      omega
  | succ width ih =>
      have hbase : 0 < base := by
        rcases Nat.eq_zero_or_pos base with rfl | h
        · rw [Nat.zero_pow (Nat.succ_pos width)] at hn
          omega
        · exact h
      rw [lowDigits, lowDigits, List.map_append, List.map_append]
      rcases Nat.lt_or_eq_of_le (Nat.div_le_div_right (c := base) hmn.le) with hdiv | hdiv
      · exact append_lt_append (ih hdiv (div_lt_pow hn)) (by simp [length_lowDigits]) _ _
      · -- The numbers differ in their last places only.
        have hmod : m % base < n % base := by
          have hm := Nat.mod_add_div m base
          have hn := Nat.mod_add_div n base
          rw [hdiv] at hm
          omega
        rw [hdiv]
        exact List.append_left_lt (List.cons_lt_cons_iff.mpr
          (.inl (hf _ _ hmod (Nat.mod_lt n hbase))))

theorem notMem_padded {c : Char} (hc : c.isDigit = false) : c ∉ (padded width n).toList := by
  intro h
  rw [padded, String.toList_ofList, List.mem_append] at h
  have hdigit : c.isDigit = true := by
    rcases h with h | h
    · rw [List.eq_of_mem_replicate h]
      rfl
    · exact Nat.isDigit_of_mem_toDigits (by decide) (by decide) h
  rw [hc] at hdigit
  cases hdigit

namespace Folder

/-! ### Running numbers -/

def hexDigit (d : Nat) : Char :=
  "0123456789ABCDEF".toList.getD d '0'

/-- Four hexadecimal digits of a number. -/
def Hexadecimal (text : String) (n : Nat) : Prop :=
  ∃ ds : List Nat, ds.length = 4 ∧ (∀ d ∈ ds, d < 16) ∧ text.toList = ds.map hexDigit ∧
    n = Nat.ofDigits 16 ds.reverse

theorem toUpper_digitChar {d : Nat} (hd : d < 16) : (Nat.digitChar d).toUpper = hexDigit d := by
  revert d
  decide

theorem hexDigit_lt {d e : Nat} (hde : d < e) (he : e < 16) : hexDigit d < hexDigit e := by
  revert d
  revert e
  decide

theorem toList_numberText (hn : n < UInt16.size) :
    (numberText n).toList = (lowDigits 16 4 n).map hexDigit := by
  have hn' : n < 16 ^ (3 + 1) := hn
  have hupper : (lowDigits 16 4 n).map (Char.toUpper ∘ Nat.digitChar) =
      (lowDigits 16 4 n).map hexDigit :=
    List.map_congr_left fun d hd => toUpper_digitChar (lt_of_mem_lowDigits (by decide) hd)
  rw [numberText, String.toList_ofList, List.length_map, ← hupper, ← List.map_map,
    ← replicate_append_toDigits (by decide) hn', List.map_append, List.map_replicate]
  rfl

theorem hexadecimal_numberText (hn : n < UInt16.size) : Hexadecimal (numberText n) n :=
  ⟨lowDigits 16 4 n, length_lowDigits 16 4 n, fun _ => lt_of_mem_lowDigits (by decide),
    toList_numberText hn, (ofDigits_lowDigits hn).symm⟩

theorem length_numberText (hn : n < UInt16.size) : (numberText n).toList.length = 4 := by
  rw [toList_numberText hn, List.length_map, length_lowDigits]

theorem numberText_lt (hmn : m < n) (hn : n < UInt16.size) :
    (numberText m).toList < (numberText n).toList := by
  rw [toList_numberText hn, toList_numberText (hmn.trans hn)]
  exact map_lowDigits_lt (fun _ _ => hexDigit_lt) hmn hn

theorem numberText_ne (hmn : m < n) (hn : n < UInt16.size) : numberText m ≠ numberText n := by
  intro h
  have hlt := numberText_lt hmn hn
  rw [h] at hlt
  exact List.lt_irrefl _ hlt

theorem notMem_numberText {c : Char} (hc : ∀ d < 16, hexDigit d ≠ c) (hn : n < UInt16.size) :
    c ∉ (numberText n).toList := by
  rw [toList_numberText hn]
  intro h
  obtain ⟨d, hd, hdc⟩ := List.mem_map.mp h
  exact hc d (lt_of_mem_lowDigits (by decide) hd) hdc

/-! ### Names -/

theorem toList_clockText (now : Timestamp) :
    now.clockText.toList = (padded 2 now.hour).toList ++
      '-' :: ((padded 2 now.minute).toList ++ '-' :: (padded 2 now.second).toList) := by
  simp [Timestamp.clockText, toString]

theorem toList_fileName (now : Timestamp) (n : Nat) (k : Kind) :
    (fileName now n k).toList = now.clockText.toList ++
      '-' :: ((numberText n).toList ++ '-' :: (k.name ++ ".json").toList) := by
  simp [fileName, toString]

/-- The parts of a name are told apart by the dashes. -/
theorem pieces_fileName (now : Timestamp) (hn : n < UInt16.size) (k : Kind) :
    Text.pieces '-' (fileName now n k).toList =
      [(padded 2 now.hour).toList, (padded 2 now.minute).toList, (padded 2 now.second).toList,
        (numberText n).toList, (k.name ++ ".json").toList] := by
  have htime (n : Nat) : Text.pieces '-' (padded 2 n).toList = [(padded 2 n).toList] :=
    Text.pieces_of_notMem (notMem_padded rfl)
  have hnumber : '-' ∉ (numberText n).toList := notMem_numberText (by decide) hn
  have hkind : '-' ∉ (k.name ++ ".json").toList := by cases k <;> decide
  rw [toList_fileName, toList_clockText]
  simp only [List.append_assoc, List.cons_append, Text.pieces_append, htime]
  rw [Text.pieces_of_notMem hnumber, Text.pieces_of_notMem hkind]
  rfl

variable {now now' : Timestamp} {k k' : Kind}

/-- Whenever files of different numbers are written, and of whichever kinds they are, they have
different names. -/
theorem fileName_ne (hmn : m < n) (hn : n < UInt16.size) :
    fileName now m k ≠ fileName now' n k' := by
  intro h
  have hpieces := pieces_fileName now (hmn.trans hn) k
  rw [h, pieces_fileName now' hn k'] at hpieces
  simp only [List.cons.injEq] at hpieces
  exact numberText_ne hmn hn (String.toList_injective hpieces.2.2.2.1.symm)

theorem isPlain_fileName (now : Timestamp) (hn : n < UInt16.size) (k : Kind) :
    Path.IsPlain (fileName now n k) := by
  have hdash : '-' ∈ (fileName now n k).toList := by simp [toList_fileName]
  have hne : ∀ text : String, '-' ∉ text.toList → fileName now n k ≠ text :=
    fun text htext h => htext (h ▸ hdash)
  refine ⟨hne _ (by decide), hne _ (by decide), hne _ (by decide), ?_⟩
  have htime (n : Nat) : '/' ∉ (padded 2 n).toList := notMem_padded rfl
  have hnumber : '/' ∉ (numberText n).toList := notMem_numberText (by decide) hn
  have hkind : '/' ∉ (k.name ++ ".json").toList := by cases k <;> decide
  simp only [toList_fileName, toList_clockText, List.mem_append, List.mem_cons, not_or]
  exact ⟨⟨htime _, by decide, htime _, by decide, htime _⟩, by decide, hnumber, by decide, hkind⟩

/-- Within one second names have the order of their numbers. -/
theorem fileName_lt (hclock : now.clockText = now'.clockText) (hmn : m < n)
    (hn : n < UInt16.size) : fileName now m k < fileName now' n k' := by
  show (fileName now m k).toList < (fileName now' n k').toList
  rw [toList_fileName, toList_fileName, hclock]
  refine List.append_left_lt (List.cons_lt_cons_iff.mpr (.inr ⟨rfl, ?_⟩))
  refine append_lt_append (numberText_lt hmn hn) ?_ _ _
  rw [length_numberText hn, length_numberText (hmn.trans hn)]

end Folder

end TangibleBlocks
