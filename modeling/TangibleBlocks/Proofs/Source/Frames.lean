import Mathlib.Data.Set.List
import TangibleBlocks.Source.FrameText

/-!
Which texts hold frames. An array of numbers is one frame, even if it is empty, and an
array of such arrays is one frame for each of them. A text that is anything else as a
value, or no value at all, is refused.
-/

namespace TangibleBlocks

theorem mapM_eq_some_iff_exists {α β γ : Type} {f : α → Option β} {g : γ → α} {h : γ → β}
    (hf : ∀ x y, f x = some y ↔ ∃ z, x = g z ∧ y = h z) {xs : List α} {ys : List β} :
    xs.mapM f = some ys ↔ ∃ zs : List γ, xs = zs.map g ∧ ys = zs.map h := by
  induction xs generalizing ys with
  | nil => simp [eq_comm]
  | cons x xs ih =>
      simp only [List.mapM_cons, Option.bind_eq_bind, Option.bind_eq_some_iff, Option.pure_def,
        Option.some.injEq, hf, ih]
      constructor
      · rintro ⟨y, ⟨z, rfl, rfl⟩, ys, ⟨zs, rfl, rfl⟩, rfl⟩
        exact ⟨z :: zs, rfl, rfl⟩
      · rintro ⟨zs, hxs, rfl⟩
        obtain ⟨z, zs, rfl, rfl, rfl⟩ := List.map_eq_cons_iff.mp hxs.symm
        exact ⟨h z, ⟨z, rfl, rfl⟩, zs.map h, ⟨zs, rfl, rfl⟩, rfl⟩

namespace Json

variable {j v : Json} {ns : List Number}

/-! ### Values -/

def ofNumbers (ns : List Number) : Json :=
  array (ns.map number)

/-- The frames of a value. -/
inductive HoldsFrames : Json → List (List Number) → Prop
  | single (ns : List Number) : HoldsFrames (ofNumbers ns) [ns]
  | multiple (ns : List Number) (nss : List (List Number)) :
      HoldsFrames (array ((ns :: nss).map ofNumbers)) (ns :: nss)

/-- The values that another is made of, that one included. -/
inductive Within (v : Json) : Json → Prop
  | self : Within v v
  | item {items : List Json} {j : Json} (hj : j ∈ items) (h : Within v j) : Within v (array items)
  | member {members : List (String × Json)} {m : String × Json} (hm : m ∈ members)
      (h : Within v m.2) : Within v (object members)

/-- Neither a number nor an array. -/
inductive Foreign : Json → Prop
  | null : Foreign null
  | bool (b : Bool) : Foreign (bool b)
  | string (s : String) : Foreign (string s)
  | object (members : List (String × Json)) : Foreign (object members)

/-- What keeps a value from holding frames: it is a number, there is something within it that is
neither a number nor an array, or it is an array of numbers and arrays together or one that is
nested more than twice. -/
inductive Spoilt : Json → Prop
  | lone (n : Number) : Spoilt (number n)
  | foreign {v j : Json} (hv : Foreign v) (h : Within v j) : Spoilt j
  | mixed {items inner : List Json} {n : Number} (hn : number n ∈ items)
      (h : array inner ∈ items) : Spoilt (array items)
  | nested {items inner innermost : List Json} (h : array inner ∈ items)
      (h' : array innermost ∈ inner) : Spoilt (array items)

theorem eq_number_or_array_of_not_foreign (h : ¬ Foreign j) :
    (∃ n, j = number n) ∨ ∃ items, j = array items := by
  cases j with
  | null => exact absurd .null h
  | bool b => exact absurd (.bool b) h
  | number n => exact .inl ⟨n, rfl⟩
  | string s => exact absurd (.string s) h
  | array items => exact .inr ⟨items, rfl⟩
  | object members => exact absurd (.object members) h

theorem within_number_iff {n : Number} : Within v (number n) ↔ v = number n := by
  constructor
  · rintro ⟨⟩
    rfl
  · rintro rfl
    exact .self

theorem within_array_iff {items : List Json} :
    Within v (array items) ↔ v = array items ∨ ∃ j ∈ items, Within v j := by
  constructor
  · rintro (_ | ⟨hj, h⟩)
    · exact .inl rfl
    · exact .inr ⟨_, hj, h⟩
  · rintro (rfl | ⟨j, hj, h⟩)
    · exact .self
    · exact .item hj h

theorem not_foreign_of_within_ofNumbers (h : Within v (ofNumbers ns)) : ¬ Foreign v := by
  rcases within_array_iff.mp h with rfl | ⟨j, hj, hv⟩
  · exact nofun
  · obtain ⟨n, -, rfl⟩ := List.mem_map.mp hj
    rw [within_number_iff.mp hv]
    exact nofun

theorem array_notMem_map_number {items : List Json} : array items ∉ ns.map number := by
  simp

theorem HoldsFrames.not_spoilt {nss : List (List Number)} (h : HoldsFrames j nss) :
    ¬ Spoilt j := by
  intro hs
  cases h with
  | single ns =>
      cases hs with
      | foreign hv hwithin => exact not_foreign_of_within_ofNumbers hwithin hv
      | mixed _ h => exact array_notMem_map_number h
      | nested h _ => exact array_notMem_map_number h
  | multiple ns nss =>
      cases hs with
      | foreign hv hwithin =>
          rcases within_array_iff.mp hwithin with rfl | ⟨j, hj, hwithin⟩
          · cases hv
          · obtain ⟨ns, -, rfl⟩ := List.mem_map.mp hj
            exact not_foreign_of_within_ofNumbers hwithin hv
      | mixed hn _ =>
          obtain ⟨ns, -, hns⟩ := List.mem_map.mp hn
          cases hns
      | nested h h' =>
          obtain ⟨ns, -, hns⟩ := List.mem_map.mp h
          obtain rfl := array.inj hns
          exact array_notMem_map_number h'

theorem exists_eq_map_of_forall {γ : Type} {g : γ → Json} {items : List Json}
    (h : ∀ j ∈ items, ∃ x, g x = j) : ∃ xs : List γ, xs.map g = items := by
  rw [← Set.mem_range, Set.range_list_map]
  exact h

theorem exists_holdsFrames_of_not_spoilt (h : ¬ Spoilt j) : ∃ nss, HoldsFrames j nss := by
  have hforeign : ∀ v, Within v j → ¬ Foreign v := fun v hwithin hv => h (.foreign hv hwithin)
  rcases eq_number_or_array_of_not_foreign (hforeign j .self) with ⟨n, rfl⟩ | ⟨items, rfl⟩
  · exact absurd (.lone n) h
  by_cases hn : ∃ n, number n ∈ items
  · -- Where there is one number, all are numbers.
    obtain ⟨n, hn⟩ := hn
    have hall : ∀ j ∈ items, ∃ m, number m = j := by
      intro j hj
      rcases eq_number_or_array_of_not_foreign (hforeign j (.item hj .self)) with
        ⟨m, rfl⟩ | ⟨inner, rfl⟩
      · exact ⟨m, rfl⟩
      · exact absurd (.mixed hn hj) h
    obtain ⟨ns, rfl⟩ := exists_eq_map_of_forall hall
    exact ⟨[ns], .single ns⟩
  · -- Where there is none, all are arrays, and what is in these are numbers.
    have hall : ∀ j ∈ items, ∃ ns, ofNumbers ns = j := by
      intro j hj
      rcases eq_number_or_array_of_not_foreign (hforeign j (.item hj .self)) with
        ⟨m, rfl⟩ | ⟨inner, rfl⟩
      · exact absurd ⟨m, hj⟩ hn
      · have hinner : ∀ v ∈ inner, ∃ m, number m = v := by
          intro v hv
          have hwithin : Within v (array items) := .item hj (.item hv .self)
          rcases eq_number_or_array_of_not_foreign (hforeign v hwithin) with
            ⟨m, rfl⟩ | ⟨innermost, rfl⟩
          · exact ⟨m, rfl⟩
          · exact absurd (.nested hj hv) h
        obtain ⟨ns, rfl⟩ := exists_eq_map_of_forall hinner
        exact ⟨ns, rfl⟩
    obtain ⟨nss, rfl⟩ := exists_eq_map_of_forall hall
    cases nss with
    | nil => exact ⟨[[]], .single []⟩
    | cons ns nss => exact ⟨ns :: nss, .multiple ns nss⟩

theorem spoilt_iff : Spoilt j ↔ ∀ nss, ¬ HoldsFrames j nss := by
  constructor
  · exact fun hs nss h => h.not_spoilt hs
  · intro h
    by_contra hs
    obtain ⟨nss, hnss⟩ := exists_holdsFrames_of_not_spoilt hs
    exact h nss hnss

/-! ### Decoding -/

theorem number?_eq_some_iff {x : Binary32} :
    j.number? = some x ↔ ∃ n, j = number n ∧ x = n.toBinary32 := by
  cases j <;> simp [number?, eq_comm]

theorem numbers?_eq_some_iff {frame : List Binary32} :
    j.numbers? = some frame ↔ ∃ ns, j = ofNumbers ns ∧ frame = ns.map Number.toBinary32 := by
  cases j with
  | array items =>
      simp only [numbers?, mapM_eq_some_iff_exists fun j x => number?_eq_some_iff, ofNumbers,
        array.injEq]
  | _ => simp [numbers?, ofNumbers]

theorem numbers?_ofNumbers (ns : List Number) :
    (ofNumbers ns).numbers? = some (ns.map Number.toBinary32) :=
  numbers?_eq_some_iff.mpr ⟨ns, rfl, rfl⟩

/-- The order in which the two forms are tried does not matter: only the empty array has both. -/
theorem frames?_eq_some_iff {frames : List (List Binary32)} :
    j.frames? = some frames ↔
      ∃ nss, HoldsFrames j nss ∧ frames = nss.map (List.map Number.toBinary32) := by
  unfold frames?
  constructor
  · intro h
    split at h
    next frame hframe =>
      obtain rfl := Option.some.inj h
      obtain ⟨ns, rfl, rfl⟩ := numbers?_eq_some_iff.mp hframe
      exact ⟨[ns], .single ns, rfl⟩
    next hnone =>
      split at h
      next items =>
        obtain ⟨nss, rfl, rfl⟩ := (mapM_eq_some_iff_exists fun j x => numbers?_eq_some_iff).mp h
        cases nss with
        | nil => cases hnone
        | cons ns nss => exact ⟨ns :: nss, .multiple ns nss, rfl⟩
      · cases h
  · rintro ⟨nss, hnss, rfl⟩
    cases hnss with
    | single ns => rw [numbers?_ofNumbers]; rfl
    | multiple ns nss =>
        have hnone : (array ((ns :: nss).map ofNumbers)).numbers? = none := by
          simp [numbers?, ofNumbers, number?]
        rw [hnone]
        exact (mapM_eq_some_iff_exists fun j x => numbers?_eq_some_iff).mpr ⟨ns :: nss, rfl, rfl⟩

theorem frames?_eq_none_iff : j.frames? = none ↔ Spoilt j := by
  rw [spoilt_iff, Option.eq_none_iff_forall_ne_some]
  constructor
  · exact fun h nss hnss => h _ (frames?_eq_some_iff.mpr ⟨nss, hnss, rfl⟩)
  · intro h frames hframes
    obtain ⟨nss, hnss, -⟩ := frames?_eq_some_iff.mp hframes
    exact h nss hnss

/-! ### Texts -/

theorem parse_of_readFirst_error {text : String} {f : Failure}
    (h : readFirst text.toList = .error f) :
    parse text = .error (.ofFailure text.toList f) := by
  simp only [parse, readText, h, Except.mapError]

theorem parse_of_readFirst_ok {text : String} {rest : List Char}
    (h : readFirst text.toList = .ok (j, rest)) :
    parse text =
      match readEnd rest with
      | .error f => .error (.ofFailure text.toList f)
      | .ok _ => .ok j := by
  simp only [parse, readText, h, Except.mapError, Except.map]
  cases readEnd rest <;> rfl

end Json

namespace FrameText

variable {text : String} {j : Json}

theorem framesOf_of_parse_ok (h : Json.parse text = .ok j) :
    framesOf text = j.frames?.elim (.error .noFrames) .ok := by
  cases hfirst : Json.readFirst text.toList with
  | error f => cases (Json.parse_of_readFirst_error hfirst).symm.trans h
  | ok first =>
      obtain ⟨j', rest⟩ := first
      rw [Json.parse_of_readFirst_ok hfirst] at h
      split at h
      · cases h
      next hend =>
        obtain rfl := Except.ok.inj h
        simp only [framesOf, hfirst, hend]
        cases j'.frames? <;> rfl

/-- Of a text that is no value it is told what is wrong with it as such, unless the value at its
beginning holds no frames. -/
theorem framesOf_of_parse_error {e : Json.SyntaxError} (h : Json.parse text = .error e) :
    framesOf text = .error (.syntaxError e) ∨ framesOf text = .error .noFrames := by
  cases hfirst : Json.readFirst text.toList with
  | error f =>
      obtain rfl := Except.error.inj ((Json.parse_of_readFirst_error hfirst).symm.trans h)
      exact .inl (by simp only [framesOf, hfirst])
  | ok first =>
      obtain ⟨j, rest⟩ := first
      rw [Json.parse_of_readFirst_ok hfirst] at h
      split at h
      next f hend =>
        obtain rfl := Except.error.inj h
        simp only [framesOf, hfirst, hend]
        cases j.frames? with
        | none => exact .inr rfl
        | some frames => exact .inl rfl
      · cases h

theorem framesOf_eq_ok_iff {frames : List (List Binary32)} :
    framesOf text = .ok frames ↔ ∃ j, Json.parse text = .ok j ∧ j.frames? = some frames := by
  cases hparse : Json.parse text with
  | error e => rcases framesOf_of_parse_error hparse with h | h <;> simp [h]
  | ok j =>
      rw [framesOf_of_parse_ok hparse]
      cases hframes : j.frames? <;> simp [hframes]

theorem ofText_eq_ok_iff {shape : Shape} {t : FrameText} :
    ofText text shape = .ok t ↔ ∃ frames, framesOf text = .ok frames ∧ t = ⟨frames, shape⟩ := by
  unfold ofText
  cases framesOf text <;> simp [Except.map, eq_comm]

theorem ofText_eq_error_iff {shape : Shape} {f : TextFault} :
    ofText text shape = .error f ↔ framesOf text = .error f := by
  unfold ofText
  cases framesOf text <;> simp [Except.map]

theorem frames_feed (t : FrameText) : t.feed.frames = t.tensors := by
  rw [feed, Feed.ofFrames, Feed.frames, List.map_map]
  exact List.map_id' t.tensors

theorem toList_data_tensors (t : FrameText) :
    t.tensors.map (fun tensor => tensor.data.toList) = t.frames := by
  rw [tensors, List.map_map]
  exact List.map_id' t.frames

end FrameText

end TangibleBlocks
