import TangibleBlocks.Json.Parser
import TangibleBlocks.Json.Printer

/-!
What the text of a value tells. Values whose numbers are integers have the same text
only if they are the same. It does not matter what follows the text, as long as this is
no further digit; so the end of a value is found within a longer text.
-/

namespace TangibleBlocks.Json

/-- Whether a text may follow a number: it does not begin with a digit. -/
def Ends (rest : List Char) : Prop :=
  ∀ c ∈ rest.head?, c.isDigit = false

/-- Whatever follows the texts of two things, all of it is the same only if the things are the same
and what follows is. -/
def Tells {α : Type} (write : α → List Char) (x y : α) : Prop :=
  ∀ ⦃r s : List Char⦄, Ends r → Ends s → write x ++ r = write y ++ s → x = y ∧ r = s

variable {r s : List Char}

theorem Tells.refl {α : Type} {write : α → List Char} {x : α} : Tells write x x :=
  fun _ _ _ _ h => ⟨rfl, List.append_cancel_left h⟩

theorem ends_nil : Ends [] :=
  nofun

theorem ends_cons {c : Char} (hc : c.isDigit = false) : Ends (c :: r) := by
  rintro d ⟨⟩
  exact hc

/-! ### Integers -/

theorem isDigit_of_mem_toDigits {n : Nat} {c : Char} (hc : c ∈ Nat.toDigits 10 n) :
    c.isDigit = true :=
  Nat.isDigit_of_mem_toDigits (by decide) (by decide) hc

theorem exists_toDigits_eq_cons (n : Nat) :
    ∃ c cs, Nat.toDigits 10 n = c :: cs ∧ c.isDigit = true := by
  cases hdigits : Nat.toDigits 10 n with
  | nil => exact absurd hdigits Nat.toDigits_ne_nil
  | cons c cs => exact ⟨c, cs, rfl, isDigit_of_mem_toDigits (hdigits ▸ List.mem_cons_self)⟩

theorem takeWhile_toDigits_append (n : Nat) (hr : Ends r) :
    (Nat.toDigits 10 n ++ r).takeWhile Char.isDigit = Nat.toDigits 10 n := by
  have hrest : r.takeWhile Char.isDigit = [] := by
    cases r with
    | nil => rfl
    | cons c r => rw [List.takeWhile_cons, hr c rfl, if_neg Bool.false_ne_true]
  rw [List.takeWhile_append_of_pos fun c hc => isDigit_of_mem_toDigits hc, hrest, List.append_nil]

theorem tells_toDigits (m n : Nat) : Tells (Nat.toDigits 10) m n := by
  intro r s hr hs h
  have hdigits : Nat.toDigits 10 m = Nat.toDigits 10 n := by
    rw [← takeWhile_toDigits_append m hr, h, takeWhile_toDigits_append n hs]
  refine ⟨?_, List.append_cancel_left (hdigits ▸ h)⟩
  calc m = Nat.ofDigitChars 10 (Nat.toDigits 10 m) 0 := Nat.ofDigitChars_ten_toDigits.symm
    _ = Nat.ofDigitChars 10 (Nat.toDigits 10 n) 0 := by rw [hdigits]
    _ = n := Nat.ofDigitChars_ten_toDigits

theorem toDigits_append_ne_cons (n : Nat) {c : Char} (hc : c.isDigit = false) :
    Nat.toDigits 10 n ++ r ≠ c :: s := by
  intro h
  obtain ⟨d, ds, hdigits, hd⟩ := exists_toDigits_eq_cons n
  rw [hdigits] at h
  obtain ⟨rfl, -⟩ := List.cons.inj h
  rw [hc] at hd
  cases hd

theorem text_integer (i : Int) :
    (Number.integer i).text.toList =
      if 0 ≤ i then Nat.toDigits 10 i.toNat else '-' :: Nat.toDigits 10 (-i).toNat := by
  rw [Number.text, Int.toString_eq_repr, Int.repr_eq_if]
  split
  · rw [Nat.toList_repr]
  · rw [String.toList_append, Nat.toList_repr]
    rfl

theorem tells_integer (i k : Int) : Tells (fun i => (Number.integer i).text.toList) i k := by
  intro r s hr hs h
  simp only [text_integer] at h
  split at h <;> split at h
  next hi hk =>
    obtain ⟨hik, hrs⟩ := tells_toDigits _ _ hr hs h
    exact ⟨by omega, hrs⟩
  next => exact absurd h (toDigits_append_ne_cons _ rfl)
  next => exact absurd h.symm (toDigits_append_ne_cons _ rfl)
  next hi hk =>
    obtain ⟨hik, hrs⟩ := tells_toDigits _ _ hr hs (List.cons.inj h).2
    exact ⟨by omega, hrs⟩

/-! ### Strings -/

theorem hexValue?_digitChar {n : Nat} (hn : n < 16) :
    Text.hexValue? (Nat.digitChar n) = some n := by
  revert n
  decide

theorem readUnicode_control {c : Char} (hc : c.toNat < 32) :
    readUnicode ('0' :: '0' :: Nat.digitChar (c.toNat / 16) :: Nat.digitChar (c.toNat % 16) :: r) =
      .ok (c, r) := by
  have hhigh := hexValue?_digitChar (n := c.toNat / 16) (by omega)
  have hlow := hexValue?_digitChar (n := c.toNat % 16) (by omega)
  have hzero : Text.hexValue? '0' = some 0 := rfl
  have hvalue : ((0 * 16 + 0) * 16 + c.toNat / 16) * 16 + c.toNat % 16 = c.toNat := by omega
  have hhex : readHex ('0' :: '0' :: Nat.digitChar (c.toNat / 16) ::
      Nat.digitChar (c.toNat % 16) :: r) = .ok (c.toNat, r) := by
    simp only [readHex, hzero, hhigh, hlow, hvalue]
  have hplane : ¬ (0xDC00 ≤ c.toNat ∧ c.toNat ≤ 0xDFFF) := by omega
  have hsingle : c.toNat < 0xD800 ∨ 0xDBFF < c.toNat := by omega
  rw [readUnicode, hhex]
  simp only [bind, Except.bind, if_neg hplane, if_pos hsingle, Char.ofNat_toNat]

/-- A character of a string is read as it was before it was written. -/
theorem readString_escape (c : Char) (fuel : Nat) (acc rest : List Char) :
    readString (fuel + 1) acc (escape c ++ rest) = readString fuel (c :: acc) rest := by
  unfold escape
  split
  next h => subst h; simp [readString, readEscape]
  split
  next h => subst h; simp [readString, readEscape]
  split
  next h => subst h; simp [readString, readEscape]
  split
  next h => subst h; simp [readString, readEscape]
  split
  next h => subst h; simp [readString, readEscape]
  split
  next h =>
    have hc : c = Char.ofNat 8 := by rw [← h, Char.ofNat_toNat]
    subst hc
    simp [readString, readEscape]
  split
  next h =>
    have hc : c = Char.ofNat 12 := by rw [← h, Char.ofNat_toNat]
    subst hc
    simp [readString, readEscape]
  split
  next h => simp [readString, readEscape, readUnicode_control h]
  next hquote hbackslash _ _ _ _ _ hcontrol =>
    simp [readString, hquote, hbackslash, hcontrol]

theorem readString_flatMap_escape (cs : List Char) {fuel : Nat} (hfuel : cs.length < fuel)
    (acc rest : List Char) :
    readString fuel acc (cs.flatMap escape ++ '"' :: rest) =
      .ok (String.ofList (acc.reverse ++ cs), rest) := by
  induction cs generalizing fuel acc with
  | nil =>
      cases fuel with
      | zero => omega
      | succ fuel => simp [readString]
  | cons c cs ih =>
      cases fuel with
      | zero => omega
      | succ fuel =>
          rw [List.flatMap_cons, List.append_assoc, readString_escape,
            ih (Nat.lt_of_succ_lt_succ hfuel)]
          simp

theorem tells_quoted (t u : String) : Tells quoted t u := by
  intro r s _ _ h
  have hread (fuel : Nat) (t : String) (rest : List Char) (hfuel : t.toList.length < fuel) :
      readString fuel [] (t.toList.flatMap escape ++ '"' :: rest) = .ok (t, rest) := by
    rw [readString_flatMap_escape _ hfuel, List.reverse_nil, List.nil_append, String.ofList_toList]
  have hbody : t.toList.flatMap escape ++ '"' :: r = u.toList.flatMap escape ++ '"' :: s := by
    simpa [quoted] using h
  let fuel := t.toList.length + u.toList.length + 1
  have hparts := hread fuel t r (by omega)
  rw [hbody, hread fuel u s (by omega)] at hparts
  obtain ⟨rfl, rfl⟩ := Prod.mk.inj (Except.ok.inj hparts)
  exact ⟨rfl, rfl⟩

/-! ### Items on lines of their own -/

/-- What stands behind the first of some items: the others, each behind a comma, and the mark that
closes the whole. -/
def others (depth : Nat) (close : Char) : List (List Char) → List Char
  | [] => newline depth ++ [close]
  | item :: rest => ',' :: (newline (depth + 1) ++ item ++ others depth close rest)

/-- Items one level deeper than `depth` between two marks. -/
def between (opening close : Char) (depth : Nat) : List (List Char) → List Char
  | [] => [opening, close]
  | item :: rest => opening :: (newline (depth + 1) ++ item ++ others depth close rest)

def member (depth : Nat) (m : String × Json) : List Char :=
  quoted m.1 ++ ':' :: ' ' :: pretty depth m.2

theorem prettyItems_cons (depth : Nat) (j : Json) (rest : List Json) :
    prettyItems depth (j :: rest) =
      newline (depth + 1) ++ pretty (depth + 1) j ++
        others depth ']' (rest.map (pretty (depth + 1))) := by
  induction rest generalizing j with
  | nil => simp [prettyItems, others]
  | cons k rest ih => simp [prettyItems, others, ih k]

theorem prettyMembers_cons (depth : Nat) (m : String × Json) (rest : List (String × Json)) :
    prettyMembers depth (m :: rest) =
      newline (depth + 1) ++ member (depth + 1) m ++
        others depth '\x7d' (rest.map (member (depth + 1))) := by
  induction rest generalizing m with
  | nil => simp [prettyMembers, others, member]
  | cons n rest ih => simp [prettyMembers, others, member, ih n]

theorem pretty_array (depth : Nat) (items : List Json) :
    pretty depth (array items) = between '[' ']' depth (items.map (pretty (depth + 1))) := by
  cases items with
  | nil => simp [pretty, between]
  | cons j rest => simp [pretty, between, prettyItems_cons]

theorem pretty_object (depth : Nat) (members : List (String × Json)) :
    pretty depth (object members) =
      between '\x7b' '\x7d' depth (members.map (member (depth + 1))) := by
  cases members with
  | nil => simp [pretty, between]
  | cons m rest => simp [pretty, between, prettyMembers_cons]

theorem ends_others (depth : Nat) (close : Char) (items : List (List Char)) :
    Ends (others depth close items ++ r) := by
  cases items with
  | nil => exact ends_cons rfl
  | cons item rest => exact ends_cons rfl

variable {α : Type} {write : α → List Char} {xs ys : List α}

theorem tells_others (depth : Nat) (close : Char) (h : ∀ x ∈ xs, ∀ y ∈ ys, Tells write x y) :
    Tells (fun xs => others depth close (xs.map write)) xs ys := by
  intro r s hr hs htext
  induction xs generalizing ys with
  | nil =>
      cases ys with
      | nil => exact ⟨rfl, List.append_cancel_left htext⟩
      | cons y ys => simp [others, newline] at htext
  | cons x xs ih =>
      cases ys with
      | nil => simp [others, newline] at htext
      | cons y ys =>
          simp only [List.map_cons, others, List.cons_append, List.append_assoc, List.cons.injEq,
            true_and] at htext
          obtain ⟨rfl, hrest⟩ := h x List.mem_cons_self y List.mem_cons_self
            (ends_others depth close _) (ends_others depth close _) (List.append_cancel_left htext)
          obtain ⟨rfl, hrs⟩ := ih (fun a ha b hb =>
            h a (List.mem_cons_of_mem _ ha) b (List.mem_cons_of_mem _ hb)) hrest
          exact ⟨rfl, hrs⟩

theorem tells_between (opening : Char) {close : Char} (hclose : close ≠ '\n') (depth : Nat)
    (h : ∀ x ∈ xs, ∀ y ∈ ys, Tells write x y) :
    Tells (fun xs => between opening close depth (xs.map write)) xs ys := by
  intro r s hr hs htext
  cases xs with
  | nil =>
      cases ys with
      | nil => exact ⟨rfl, List.append_cancel_left htext⟩
      | cons y ys => simp [between, newline, hclose] at htext
  | cons x xs =>
      cases ys with
      | nil => simp [between, newline, hclose.symm] at htext
      | cons y ys =>
          -- With a comma in front the items are all of one form.
          refine tells_others depth close h hr hs ?_
          simpa [between, others] using htext

theorem tells_member {m n : String × Json} {depth : Nat} (h : Tells (pretty depth) m.2 n.2) :
    Tells (member depth) m n := by
  intro r s hr hs htext
  simp only [member, List.append_assoc, List.cons_append] at htext
  obtain ⟨hkey, hrest⟩ := tells_quoted m.1 n.1 (ends_cons rfl) (ends_cons rfl) htext
  simp only [List.cons.injEq, true_and] at hrest
  obtain ⟨hvalue, hrs⟩ := h hr hs hrest
  exact ⟨Prod.ext hkey hvalue, hrs⟩

/-! ### Values with integers -/

@[simp] theorem ofNat_inj {m n : Nat} : ofNat m = ofNat n ↔ m = n :=
  ⟨fun h => Int.ofNat.inj (Number.integer.inj (number.inj h)), congrArg ofNat⟩

/-- The values whose text keeps everything: their numbers are integers. -/
inductive Exact : Json → Prop
  | null : Exact null
  | bool (b : Bool) : Exact (bool b)
  | integer (i : Int) : Exact (number (.integer i))
  | string (t : String) : Exact (string t)
  | array {items : List Json} (h : ∀ j ∈ items, Exact j) : Exact (array items)
  | object {members : List (String × Json)} (h : ∀ m ∈ members, Exact m.2) :
      Exact (object members)

attribute [simp] Exact.null Exact.bool Exact.string

@[simp] theorem exact_ofNat (n : Nat) : Exact (ofNat n) :=
  .integer n

@[simp] theorem exact_ofInt (i : Int) : Exact (ofInt i) :=
  .integer i

@[simp] theorem exact_array_iff {items : List Json} :
    Exact (array items) ↔ ∀ j ∈ items, Exact j :=
  ⟨fun | .array h => h, .array⟩

@[simp] theorem exact_object_iff {members : List (String × Json)} :
    Exact (object members) ↔ ∀ m ∈ members, Exact m.2 :=
  ⟨fun | .object h => h, .object⟩

@[simp] theorem exact_getD_map {α : Type} {toJson : α → Json} (h : ∀ a, Exact (toJson a))
    (a : Option α) : Exact ((a.map toJson).getD null) := by
  cases a with
  | none => exact .null
  | some a => exact h a

/-! ### Values told by their texts -/

inductive Kind where
  | null
  | bool
  | number
  | string
  | array
  | object

def kind : Json → Kind
  | null => .null
  | bool _ => .bool
  | number _ => .number
  | string _ => .string
  | array _ => .array
  | object _ => .object

/-- The kind of the values whose texts begin with a character. -/
def Kind.ofFirst (c : Char) : Kind :=
  if c = 'n' then .null
  else if c = 't' ∨ c = 'f' then .bool
  else if c = '"' then .string
  else if c = '[' then .array
  else if c = '\x7b' then .object
  else .number

variable {j k : Json} {depth : Nat}

theorem pretty_integer (depth : Nat) (i : Int) :
    pretty depth (number (.integer i)) = (Number.integer i).text.toList := by
  simp [pretty, atom]

theorem pretty_string (depth : Nat) (t : String) : pretty depth (string t) = quoted t := by
  simp [pretty, atom]

theorem Kind.ofFirst_digit {c : Char} (hc : c.isDigit = true) : Kind.ofFirst c = .number := by
  have hne (d : Char) (hd : d.isDigit = false) : c ≠ d := by
    rintro rfl
    rw [hd] at hc
    cases hc
  simp [Kind.ofFirst, hne 'n' rfl, hne 't' rfl, hne 'f' rfl, hne '"' rfl, hne '[' rfl,
    hne '\x7b' rfl]

theorem Exact.exists_pretty_eq_cons (hj : Exact j) (depth : Nat) :
    ∃ c cs, pretty depth j = c :: cs ∧ Kind.ofFirst c = j.kind := by
  cases hj with
  | null => exact ⟨'n', _, rfl, rfl⟩
  | bool b =>
      cases b with
      | false => exact ⟨'f', _, rfl, rfl⟩
      | true => exact ⟨'t', _, rfl, rfl⟩
  | integer i =>
      rw [pretty_integer, text_integer]
      split
      next =>
        obtain ⟨c, cs, hdigits, hc⟩ := exists_toDigits_eq_cons i.toNat
        exact ⟨c, cs, hdigits, Kind.ofFirst_digit hc⟩
      next => exact ⟨'-', _, rfl, rfl⟩
  | string t => exact ⟨'"', _, pretty_string depth t, rfl⟩
  | @array items _ =>
      rw [pretty_array]
      cases items <;> exact ⟨'[', _, rfl, rfl⟩
  | @object members _ =>
      rw [pretty_object]
      cases members <;> exact ⟨'\x7b', _, rfl, rfl⟩

theorem Exact.kind_eq (hj : Exact j) (hk : Exact k)
    (h : pretty depth j ++ r = pretty depth k ++ s) : j.kind = k.kind := by
  obtain ⟨c, cs, hcs, hc⟩ := hj.exists_pretty_eq_cons depth
  obtain ⟨d, ds, hds, hd⟩ := hk.exists_pretty_eq_cons depth
  rw [hcs, hds] at h
  rw [← hc, ← hd, (List.cons.inj h).1]

/-- Only values of the same kind have to be told from each other. -/
theorem Exact.tells_of_kind (hj : Exact j) (hk : Exact k)
    (h : j.kind = k.kind → Tells (pretty depth) j k) : Tells (pretty depth) j k :=
  fun _ _ hr hs htext => h (hj.kind_eq hk htext) hr hs htext

theorem Tells.lift {f : α → Json} (hf : ∀ x, pretty depth (f x) = write x) {x y : α}
    (h : Tells write x y) : Tells (pretty depth) (f x) (f y) := by
  intro r s hr hs htext
  rw [hf, hf] at htext
  obtain ⟨hxy, hrs⟩ := h hr hs htext
  exact ⟨congrArg f hxy, hrs⟩

theorem tells_bool (depth : Nat) (b c : Bool) : Tells (pretty depth) (bool b) (bool c) := by
  cases b <;> cases c
  · exact .refl
  · intro r s _ _ h
    simp [pretty, atom] at h
  · intro r s _ _ h
    simp [pretty, atom] at h
  · exact .refl

/-- The text of a value tells it from all others. -/
theorem Exact.tells_pretty (hj : Exact j) (hk : Exact k) (depth : Nat) :
    Tells (pretty depth) j k := by
  induction hj generalizing k depth with
  | null =>
      refine Exact.tells_of_kind .null hk fun hkind => ?_
      cases hk with
      | null => exact .refl
      | _ => cases hkind
  | bool b =>
      refine Exact.tells_of_kind (.bool b) hk fun hkind => ?_
      cases hk with
      | bool c => exact tells_bool depth b c
      | _ => cases hkind
  | integer i =>
      refine Exact.tells_of_kind (.integer i) hk fun hkind => ?_
      cases hk with
      | integer l => exact (tells_integer i l).lift (pretty_integer depth)
      | _ => cases hkind
  | string t =>
      refine Exact.tells_of_kind (.string t) hk fun hkind => ?_
      cases hk with
      | string u => exact (tells_quoted t u).lift (pretty_string depth)
      | _ => cases hkind
  | array hitems ih =>
      refine Exact.tells_of_kind (.array hitems) hk fun hkind => ?_
      cases hk with
      | array hothers =>
          refine Tells.lift (pretty_array depth) (tells_between '[' (by decide) depth ?_)
          exact fun x hx y hy => ih x hx (hothers y hy) (depth + 1)
      | _ => cases hkind
  | object hmembers ih =>
      refine Exact.tells_of_kind (.object hmembers) hk fun hkind => ?_
      cases hk with
      | object hothers =>
          refine Tells.lift (pretty_object depth) (tells_between '\x7b' (by decide) depth ?_)
          exact fun m hm n hn => tells_member (ih m hm (hothers n hn) (depth + 1))
      | _ => cases hkind

theorem Exact.toPretty_inj (hj : Exact j) (hk : Exact k) : j.toPretty = k.toPretty ↔ j = k := by
  constructor
  · intro h
    have hchars : pretty 0 j ++ [] = pretty 0 k ++ [] := by
      rw [List.append_nil, List.append_nil]
      exact String.ofList_injective h
    exact (hj.tells_pretty hk 0 ends_nil ends_nil hchars).1
  · exact congrArg toPretty

end TangibleBlocks.Json
