import TangibleBlocks.Proofs.Robot.Jumping
import TangibleBlocks.Proofs.Text.Cutting

/-!
How cells are written. A coordinate is a sign, which may be left out, and digits; a cell
is two coordinates with a comma between them and blanks around them wherever one likes.
Texts of this form are read as the cells they name, as long as the coordinates are on
the grid, and no others are.
-/

namespace TangibleBlocks

/-! ### Numerals -/

/-- Decimal digits, one at least, of a number. Zeros may stand in front. -/
structure Digits (cs : List Char) (n : Nat) : Prop where
  ne_nil : cs ≠ []
  isDigit : ∀ c ∈ cs, c.isDigit = true
  value : n = Nat.ofDigitChars 10 cs 0

/-- Digits with a sign or without. -/
inductive Denotes : List Char → Int → Prop
  | bare {cs : List Char} {n : Nat} (h : Digits cs n) : Denotes cs n
  | plus {cs : List Char} {n : Nat} (h : Digits cs n) : Denotes ('+' :: cs) n
  | minus {cs : List Char} {n : Nat} (h : Digits cs n) : Denotes ('-' :: cs) (-n)

variable {cs : List Char} {n : Nat} {i low high : Int}

theorem digitsValue_eq_ofDigitChars (cs : List Char) :
    digitsValue cs = Nat.ofDigitChars 10 cs 0 := by
  simp only [digitsValue, digitValue, Nat.ofDigitChars_eq_foldl, Nat.mul_comm]

theorem readDigits?_eq_some_iff : readDigits? cs = some n ↔ Digits cs n := by
  rw [readDigits?, Option.ite_some_none_eq_some, digitsValue_eq_ofDigitChars, List.all_eq_true]
  exact ⟨fun ⟨⟨hne, hdigit⟩, hn⟩ => ⟨hne, hdigit, hn.symm⟩,
    fun ⟨hne, hdigit, hn⟩ => ⟨⟨hne, hdigit⟩, hn.symm⟩⟩

theorem digits_toDigits (n : Nat) : Digits (Nat.toDigits 10 n) n where
  ne_nil := Nat.toDigits_ne_nil
  isDigit _ hc := Nat.isDigit_of_mem_toDigits (by decide) (by decide) hc
  value := Nat.ofDigitChars_ten_toDigits.symm

theorem denotes_plus_iff : Denotes ('+' :: cs) i ↔ ∃ n : Nat, Digits cs n ∧ (n : Int) = i := by
  constructor
  · rintro (h | h)
    · exact absurd (h.isDigit '+' List.mem_cons_self) (by decide)
    · exact ⟨_, h, rfl⟩
  · rintro ⟨n, h, rfl⟩
    exact .plus h

theorem denotes_minus_iff : Denotes ('-' :: cs) i ↔ ∃ n : Nat, Digits cs n ∧ -(n : Int) = i := by
  constructor
  · rintro (h | - | h)
    · exact absurd (h.isDigit '-' List.mem_cons_self) (by decide)
    · exact ⟨_, h, rfl⟩
  · rintro ⟨n, h, rfl⟩
    exact .minus h

theorem denotes_bare_iff (hplus : ∀ rest, cs ≠ '+' :: rest) (hminus : ∀ rest, cs ≠ '-' :: rest) :
    Denotes cs i ↔ ∃ n : Nat, Digits cs n ∧ (n : Int) = i := by
  constructor
  · rintro (h | h | h)
    · exact ⟨_, h, rfl⟩
    · exact absurd rfl (hplus _)
    · exact absurd rfl (hminus _)
  · rintro ⟨n, h, rfl⟩
    exact .bare h

/-- The numerals that are read are those of the numbers within the bounds. -/
theorem readInteger?_eq_some_iff :
    readInteger? low high cs = some i ↔ Denotes cs i ∧ low ≤ i ∧ i ≤ high := by
  unfold readInteger?
  simp only [Option.filter_eq_some_iff, Bool.and_eq_true, decide_eq_true_eq]
  refine and_congr_left fun _ => ?_
  split
  next => simp [Option.bind_eq_some_iff, readDigits?_eq_some_iff, denotes_plus_iff]
  next => simp [Option.bind_eq_some_iff, readDigits?_eq_some_iff, denotes_minus_iff]
  next hplus hminus =>
    simp [Option.bind_eq_some_iff, readDigits?_eq_some_iff, denotes_bare_iff hplus hminus]

/-- The usual text of an integer is a numeral of it. -/
theorem denotes_toString (i : Int) : Denotes (toString i).toList i := by
  rw [Int.toString_eq_repr, Int.repr_eq_if]
  split
  next hi =>
    rw [Nat.toList_repr]
    simpa [Int.toNat_of_nonneg hi] using Denotes.bare (digits_toDigits i.toNat)
  next hi =>
    rw [String.toList_append, Nat.toList_repr]
    have hneg : ((-i).toNat : Int) = -i := Int.toNat_of_nonneg (by omega)
    simpa [hneg] using Denotes.minus (digits_toDigits (-i).toNat)

theorem not_isBlank_of_isDigit {c : Char} (h : c.isDigit = true) : Text.isBlank c = false := by
  have hlow : 48 ≤ c.toNat ∧ c.toNat ≤ 57 := by
    simpa [Char.isDigit, UInt32.le_iff_toNat_le] using h
  simp [Text.isBlank]
  omega

theorem Denotes.char (h : Denotes cs i) {c : Char} (hc : c ∈ cs) :
    c.isDigit = true ∨ c = '+' ∨ c = '-' := by
  cases h with
  | bare h => exact .inl (h.isDigit c hc)
  | plus h =>
      rcases List.mem_cons.mp hc with rfl | hc
      · exact .inr (.inl rfl)
      · exact .inl (h.isDigit c hc)
  | minus h =>
      rcases List.mem_cons.mp hc with rfl | hc
      · exact .inr (.inr rfl)
      · exact .inl (h.isDigit c hc)

theorem Denotes.trimmed (h : Denotes cs i) : Text.Trimmed cs := by
  refine Text.trimmed_of_forall fun c hc => ?_
  rcases h.char hc with hc | rfl | rfl
  · exact not_isBlank_of_isDigit hc
  · rfl
  · rfl

theorem Denotes.comma_notMem (h : Denotes cs i) : ',' ∉ cs := by
  intro hc
  rcases h.char hc with hc | hc | hc <;> revert hc <;> decide

/-! ### Cells -/

namespace Cell

variable {x y : Int32}

theorem readCoordinate?_eq_some_iff :
    readCoordinate? cs = some x ↔ Denotes (Text.trim cs) x.toInt := by
  rw [readCoordinate?, Option.map_eq_some_iff]
  constructor
  · rintro ⟨i, hi, rfl⟩
    obtain ⟨hdenotes, hlow, hhigh⟩ := readInteger?_eq_some_iff.mp hi
    rwa [coordinate?_eq_some_iff.mp (if_pos ⟨hlow, hhigh⟩)]
  · intro h
    exact ⟨x.toInt, readInteger?_eq_some_iff.mpr ⟨h, coordinate_bounds x⟩, Int32.ofInt_toInt x⟩

/-- The first comma of the text stands between numerals of the two coordinates, but for blanks at
the ends of what is before it and behind it. -/
def Named (text : String) (c : Cell) : Prop :=
  ∃ before after, text.toList = before ++ ',' :: after ∧ ',' ∉ before ∧
    Denotes (Text.trim before) c.x.toInt ∧ Denotes (Text.trim after) c.y.toInt

variable {text : String} {c : Cell}

theorem read?_eq_some_iff : read? text.toList = some c ↔ c.Named text := by
  unfold read?
  constructor
  · intro h
    split at h
    · cases h
    next before after hsplit =>
      obtain ⟨htext, hbefore⟩ := Text.splitAt?_eq_some_iff.mp hsplit
      split at h
      next x y hx hy =>
        obtain rfl := Option.some.inj h
        exact ⟨before, after, htext, hbefore, readCoordinate?_eq_some_iff.mp hx,
          readCoordinate?_eq_some_iff.mp hy⟩
      · cases h
  · rintro ⟨before, after, htext, hbefore, hx, hy⟩
    rw [htext, Text.splitAt?_append hbefore]
    dsimp only
    rw [readCoordinate?_eq_some_iff.mpr hx, readCoordinate?_eq_some_iff.mpr hy]

/-- All the ways to write a cell: blanks, a numeral, blanks, a comma, and the same once more. -/
theorem named_iff : c.Named text ↔
    ∃ w₁ x w₂ w₃ y w₄ : List Char,
      (∀ b ∈ w₁ ++ w₂ ++ w₃ ++ w₄, Text.isBlank b = true) ∧
      Denotes x c.x.toInt ∧ Denotes y c.y.toInt ∧
      text.toList = w₁ ++ x ++ w₂ ++ ',' :: (w₃ ++ y ++ w₄) := by
  constructor
  · rintro ⟨before, after, htext, -, hx, hy⟩
    obtain ⟨w₁, w₂, h₁, h₂, hbefore⟩ := Text.exists_eq_append_trim before
    obtain ⟨w₃, w₄, h₃, h₄, hafter⟩ := Text.exists_eq_append_trim after
    refine ⟨w₁, _, w₂, w₃, _, w₄, ?_, hx, hy, ?_⟩
    · simp only [List.forall_mem_append]
      exact ⟨⟨⟨h₁, h₂⟩, h₃⟩, h₄⟩
    · rw [← hbefore, ← hafter, htext]
  · rintro ⟨w₁, x, w₂, w₃, y, w₄, hblank, hx, hy, htext⟩
    simp only [List.forall_mem_append] at hblank
    obtain ⟨⟨⟨h₁, h₂⟩, h₃⟩, h₄⟩ := hblank
    refine ⟨w₁ ++ x ++ w₂, w₃ ++ y ++ w₄, htext, ?_, ?_, ?_⟩
    · -- A comma is no blank, and numerals have none.
      simp only [List.mem_append, not_or]
      exact ⟨⟨fun h => absurd (h₁ _ h) (by decide), hx.comma_notMem⟩,
        fun h => absurd (h₂ _ h) (by decide)⟩
    · rwa [Text.trim_append h₁ h₂ hx.trimmed]
    · rwa [Text.trim_append h₃ h₄ hy.trimmed]

/-- A cell is read from the usual texts of its coordinates with a comma between them, whatever
blanks stand around them. A text is read as a cell exactly if its first comma stands between
numerals of the coordinates with blanks around them: digits, and a sign perhaps. Every other text
is refused, and the refusal says which text it was. -/
theorem ofText_named :
    (∀ (c : Cell) (w₁ w₂ w₃ w₄ : String),
      (∀ w ∈ [w₁, w₂, w₃, w₄], ∀ b ∈ w.toList, Text.isBlank b = true) →
      ofText (w₁ ++ toString c.x.toInt ++ w₂ ++ "," ++ w₃ ++ toString c.y.toInt ++ w₄) = .ok c) ∧
    (∀ (text : String) (c : Cell), ofText text = .ok c ↔ c.Named text) ∧
    ∀ (text : String) (e : Malformed),
      ofText text = .error e ↔ e = ⟨text⟩ ∧ ∀ c : Cell, ¬ c.Named text := by
  have hok : ∀ (text : String) (c : Cell), ofText text = .ok c ↔ c.Named text := by
    intro text c
    rw [← read?_eq_some_iff, ofText]
    split
    next d hd => rw [hd, Except.ok.injEq, Option.some.injEq]
    next hnone => simp [hnone]
  refine ⟨?_, hok, ?_⟩
  · intro c w₁ w₂ w₃ w₄ hblank
    refine (hok _ c).mpr (named_iff.mpr ⟨w₁.toList, _, w₂.toList, w₃.toList, _, w₄.toList, ?_,
      denotes_toString c.x.toInt, denotes_toString c.y.toInt, ?_⟩)
    · simpa [or_imp, forall_and, and_assoc] using hblank
    · simp
  · intro text e
    simp only [← read?_eq_some_iff, ofText]
    split
    next d hd => simp [hd]
    next hnone => simp [hnone, eq_comm]

end Cell

end TangibleBlocks
