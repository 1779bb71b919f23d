import TangibleBlocks.Source.TensorFiles

/-!
Numbers as bytes. Four bytes make a number and a number makes four bytes, each the
other way round, for every bit pattern. So what is read from a file has all of its
bytes in it but those at the end that are too few for a number.
-/

namespace TangibleBlocks.TensorFiles

theorem toNat_bits_number (a b c d : UInt8) :
    (number a b c d).bits.toNat =
      a.toNat + 256 * (b.toNat + 256 * (c.toNat + 256 * d.toNat)) := by
  have ha := a.toNat_lt
  have hb := b.toNat_lt
  have hc := c.toNat_lt
  have hd := d.toNat_lt
  simp only [number, Nat.shiftLeft_eq, UInt32.toNat_ofNat']
  rw [Nat.mod_eq_of_lt (by omega)]
  omega

theorem bytes_number (a b c d : UInt8) : bytes (number a b c d) = [a, b, c, d] := by
  have ha := a.toNat_lt
  have hb := b.toNat_lt
  have hc := c.toNat_lt
  have hd := d.toNat_lt
  have hdigit {n : Nat} {x : UInt8} (h : n % 256 = x.toNat) : UInt8.ofNat n = x :=
    UInt8.toNat_inj.mp (UInt8.toNat_ofNat'.trans h)
  simp only [bytes, toNat_bits_number, Nat.shiftRight_eq_div_pow]
  rw [hdigit (x := a) (by omega), hdigit (x := b) (by omega), hdigit (x := c) (by omega),
    hdigit (x := d) (by omega)]

theorem exists_bytes_eq (x : Binary32) :
    ∃ a b c d, bytes x = [a, b, c, d] ∧ number a b c d = x := by
  refine ⟨_, _, _, _, rfl, ?_⟩
  have hx := x.bits_lt
  have hbits : x.bits.toNat = (number (UInt8.ofNat x.bits.toNat)
      (UInt8.ofNat (x.bits.toNat >>> 8)) (UInt8.ofNat (x.bits.toNat >>> 16))
      (UInt8.ofNat (x.bits.toNat >>> 24))).bits.toNat := by
    simp only [toNat_bits_number, UInt8.toNat_ofNat', Nat.shiftRight_eq_div_pow]
    omega
  obtain ⟨bits⟩ := x
  exact congrArg Binary32.mk (UInt32.toNat_inj.mp hbits.symm)

/-! ### Files -/

/-- Bytes are taken off in fours. -/
@[elab_as_elim]
theorem fours_induction {motive : List UInt8 → Prop}
    (short : ∀ content, content.length < 4 → motive content)
    (four : ∀ a b c d rest, motive rest → motive (a :: b :: c :: d :: rest)) :
    ∀ content, motive content
  | [] => short [] (by simp)
  | [a] => short [a] (by simp)
  | [a, b] => short [a, b] (by simp)
  | [a, b, c] => short [a, b, c] (by simp)
  | a :: b :: c :: d :: rest => four a b c d rest (fours_induction short four rest)

theorem addNumbers_of_short (done : Array Binary32) {content : List UInt8}
    (h : content.length < 4) : addNumbers done content = done := by
  match content with
  | [] => rfl
  | [_] => rfl
  | [_, _] => rfl
  | [_, _, _] => rfl
  | a :: b :: c :: d :: rest =>
      simp only [List.length_cons] at h
      omega

theorem toList_addNumbers (done : Array Binary32) (content : List UInt8) :
    (addNumbers done content).toList = done.toList ++ (numbers content).toList := by
  induction content using fours_induction generalizing done with
  | short content h =>
      rw [numbers, addNumbers_of_short done h, addNumbers_of_short #[] h, List.append_nil]
  | four a b c d rest ih =>
      rw [numbers, addNumbers, addNumbers, ih, ih (Array.push _ _), Array.toList_push,
        Array.toList_push, List.append_assoc, List.append_assoc, List.nil_append]

theorem toList_numbers_of_short {content : List UInt8} (h : content.length < 4) :
    (numbers content).toList = [] := by
  rw [numbers, addNumbers_of_short #[] h]

theorem toList_numbers_four (a b c d : UInt8) (rest : List UInt8) :
    (numbers (a :: b :: c :: d :: rest)).toList = number a b c d :: (numbers rest).toList := by
  rw [numbers, addNumbers, toList_addNumbers, Array.toList_push, List.nil_append,
    List.singleton_append]

theorem size_numbers (content : List UInt8) : (numbers content).size = content.length / 4 := by
  rw [← Array.length_toList]
  induction content using fours_induction with
  | short content h => rw [toList_numbers_of_short h, List.length_nil, Nat.div_eq_of_lt h]
  | four a b c d rest ih =>
      rw [toList_numbers_four, List.length_cons, ih]
      simp only [List.length_cons]
      omega

/-- Nothing is lost of a file but what is left over behind the last four bytes. -/
theorem flatMap_bytes_numbers (content : List UInt8) :
    (numbers content).toList.flatMap bytes =
      content.take (content.length - content.length % 4) := by
  induction content using fours_induction with
  | short content h =>
      rw [toList_numbers_of_short h, Nat.mod_eq_of_lt h, Nat.sub_self]
      rfl
  | four a b c d rest ih =>
      have hlength : (a :: b :: c :: d :: rest).length -
          (a :: b :: c :: d :: rest).length % 4 = rest.length - rest.length % 4 + 4 := by
        simp only [List.length_cons]
        omega
      rw [toList_numbers_four, List.flatMap_cons, bytes_number, ih, hlength]
      rfl

/-- Every sequence of numbers can be read back from its bytes. -/
theorem toList_numbers_flatMap_bytes (xs : List Binary32) :
    (numbers (xs.flatMap bytes)).toList = xs := by
  induction xs with
  | nil => rfl
  | cons x xs ih =>
      obtain ⟨a, b, c, d, hbytes, hx⟩ := exists_bytes_eq x
      rw [List.flatMap_cons, hbytes]
      show (numbers (a :: b :: c :: d :: xs.flatMap bytes)).toList = x :: xs
      rw [toList_numbers_four, hx, ih]

end TangibleBlocks.TensorFiles
