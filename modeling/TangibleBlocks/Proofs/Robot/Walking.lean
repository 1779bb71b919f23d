import Mathlib.Order.Bounds.Defs
import TangibleBlocks.Proofs.Execution.Path

/-!
How far a robot walks. Seen from its cell, the cells ahead of it are numbered by
the steps that lead to them. In a world in which nothing becomes passable or
impassable it takes as many of its steps as there are passable cells ahead of it
without a gap, enters these cells one after the other, and stays on the last.
-/

namespace TangibleBlocks

namespace Cell

variable {c d e : Cell} {h : Heading} {m n : Nat}

/-- The cell that is `n` steps ahead of `c`. -/
def Ahead (c : Cell) (h : Heading) (n : Nat) (d : Cell) : Prop :=
  d.x.toInt = c.x.toInt + h.delta.1 * n ∧ d.y.toInt = c.y.toInt + h.delta.2 * n

theorem coordinate?_eq_some_iff {i : Int} {x : Int32} : coordinate? i = some x ↔ x.toInt = i := by
  have hleast : -2147483648 ≤ x.toInt := x.le_toInt
  have hgreatest : x.toInt < 2147483648 := x.toInt_lt
  unfold coordinate? least greatest
  constructor
  · intro hx
    obtain ⟨hi, rfl⟩ := Option.ite_some_none_eq_some.mp hx
    exact Int32.toInt_ofInt_of_le hi.1 (by omega)
  · rintro rfl
    rw [if_pos (by omega), Int32.ofInt_toInt]

theorem ofInts?_eq_some_iff {x y : Int} :
    ofInts? x y = some d ↔ d.x.toInt = x ∧ d.y.toInt = y := by
  rw [← coordinate?_eq_some_iff, ← coordinate?_eq_some_iff]
  unfold ofInts?
  constructor
  · intro hd
    split at hd
    next hx hy =>
      obtain rfl := Option.some.inj hd
      exact ⟨hx, hy⟩
    · cases hd
  · rintro ⟨hx, hy⟩
    rw [hx, hy]

theorem offset?_eq_some_iff : c.offset? h n = some d ↔ c.Ahead h n d :=
  ofInts?_eq_some_iff

theorem next?_eq_some_iff : c.next? h = some d ↔ c.Ahead h 1 d :=
  offset?_eq_some_iff

theorem ahead_zero_iff : c.Ahead h 0 d ↔ c = d := by
  cases c
  cases d
  simp [Ahead, Int32.toInt_inj, eq_comm]

/-- Behind `m` steps, what is `n` steps ahead is what was `m + n` steps ahead. -/
theorem Ahead.ahead_iff (hd : c.Ahead h m d) : d.Ahead h n e ↔ c.Ahead h (m + n) e := by
  obtain ⟨hx, hy⟩ := hd
  simp only [Ahead, hx, hy, Int.natCast_add, Int.mul_add, Int.add_assoc]

/-- A way goes over the cells ahead one by one. -/
theorem Leads.ahead {cells : List Cell} (hl : Leads h c cells d) :
    c.Ahead h cells.length d ∧ ∀ i (hi : i < cells.length), c.Ahead h (i + 1) cells[i] := by
  induction cells generalizing c with
  | nil => exact ⟨ahead_zero_iff.mpr hl, fun i hi => absurd hi (Nat.not_lt_zero i)⟩
  | cons e cells ih =>
      obtain ⟨hnext, hrest⟩ := hl
      have hfirst : c.Ahead h 1 e := next?_eq_some_iff.mp hnext
      obtain ⟨hd, hcells⟩ := ih hrest
      constructor
      · rw [List.length_cons, Nat.add_comm]
        exact hfirst.ahead_iff.mp hd
      · intro i hi
        cases i with
        | zero => exact hfirst
        | succ i =>
            rw [Nat.add_comm (i + 1) 1]
            exact hfirst.ahead_iff.mp (hcells i (Nat.lt_of_succ_lt_succ hi))

end Cell

namespace World

variable {σ : Type} (w : World σ)

/-- The first `k` cells ahead of a cell are on the grid and passable. -/
def Open (s : σ) (c : Cell) (h : Heading) (k : Nat) : Prop :=
  ∀ i, 1 ≤ i → i ≤ k → ∃ d, c.Ahead h i d ∧ w.passable s d = true

variable {w}

/-- In a world in which cells do not become passable or impassable, a robot advances as far as the
cells ahead of it are passable without a gap, and collects on each of them. -/
theorem exists_advance (hfixed : ∀ s c, w.passable (w.collect s c) = w.passable s) (h : Heading)
    (steps : Nat) (c : Cell) (s : σ) :
    ∃ (k : Nat) (target : Cell) (cells : List Cell),
      IsGreatest {k | k ≤ steps ∧ w.Open s c h k} k ∧
        c.Ahead h k target ∧ cells.length = k ∧
        (∀ i (hi : i < cells.length), c.Ahead h (i + 1) cells[i]) ∧
        w.advance h steps c s = (steps - k, target, cells.foldl w.collect s) := by
  obtain ⟨cells, hleads, hadmits, hstate, hlength, hend⟩ := w.exists_leads_advance h steps c s
  generalize w.advance h steps c s = far at *
  obtain ⟨left, target, s'⟩ := far
  dsimp only at hleads hstate hlength hend
  subst hstate
  obtain ⟨hlast, hpassable⟩ := hadmits.of_invariant (I := fun t => w.passable t = w.passable s)
    (fun t e ht => (hfixed t e).trans ht) rfl
  obtain ⟨htarget, hcells⟩ := hleads.ahead
  have hleft : left = steps - cells.length := by omega
  refine ⟨cells.length, target, cells, ⟨⟨by omega, fun i hi hle => ?_⟩, ?_⟩, htarget, rfl, hcells,
    by rw [hleft]⟩
  · obtain ⟨j, rfl⟩ := Nat.exists_eq_add_of_le' hi
    obtain ⟨t, ht, hfree⟩ := hpassable cells[j] (List.getElem_mem hle)
    exact ⟨cells[j], hcells j hle, ht ▸ hfree⟩
  · -- A cell that is open behind the last one could have been entered from there.
    rintro k ⟨hk, hopen⟩
    apply Nat.le_of_not_lt
    intro hlt
    obtain ⟨e, hahead, hfree⟩ := hopen (cells.length + 1) (by omega) hlt
    have hnext : target.next? h = some e :=
      Cell.next?_eq_some_iff.mpr (htarget.ahead_iff.mpr hahead)
    have henter : w.enter? (cells.foldl w.collect s) target h = some e :=
      w.enter?_eq_some_iff.mpr ⟨hnext, hlast ▸ hfree⟩
    rw [hend (by omega)] at henter
    cases henter

/-! ### Machine words -/

/-- Advancing in machine words. The cells that are entered are counted in one, and a step is added
to the coordinates in two. -/
def advanceInWords (w : World σ) (h : Heading) : Nat → UInt32 → Cell → σ → UInt32 × Cell × σ
  | 0, entered, c, s => (entered, c, s)
  | n + 1, entered, c, s =>
    match w.enter? s c h with
    | none => (entered, c, s)
    | some _ =>
      let d : Cell := ⟨c.x + .ofInt h.delta.1, c.y + .ofInt h.delta.2⟩
      advanceInWords w h n (entered + 1) d (w.collect s d)

/-- A step in machine words leads to the next cell. -/
theorem add_delta_of_ahead {c d : Cell} {h : Heading} (hd : c.Ahead h 1 d) :
    (⟨c.x + .ofInt h.delta.1, c.y + .ofInt h.delta.2⟩ : Cell) = d := by
  obtain ⟨hx, hy⟩ := hd
  have hword (a b : Int32) (i : Int) (hb : b.toInt = a.toInt + i * 1) : a + .ofInt i = b := by
    calc a + .ofInt i = .ofInt a.toInt + .ofInt i := by rw [Int32.ofInt_toInt]
      _ = .ofInt (a.toInt + i) := (Int32.ofInt_add _ _).symm
      _ = b := by rw [← Int32.ofInt_toInt b, hb, Int.mul_one]
  rw [hword c.x d.x _ hx, hword c.y d.y _ hy]

variable (w)

/-- As long as the count has room for all the steps, advancing in machine words is the same. -/
theorem advanceInWords_eq (h : Heading) (n : Nat) (entered : UInt32) (c : Cell) (s : σ)
    (hroom : entered.toNat + n < UInt32.size) :
    let far := w.advance h n c s
    let words := w.advanceInWords h n entered c s
    words.1.toNat + far.1 = entered.toNat + n ∧ words.2 = far.2 := by
  -- Each step uses up one of the places that the count has left.
  induction n generalizing entered c s with
  | zero => exact ⟨rfl, rfl⟩
  | succ n ih =>
      cases hstep : w.enter? s c h with
      | none =>
          simp [advance, advanceInWords, hstep]
      | some d =>
          have hnext : c.Ahead h 1 d :=
            Cell.next?_eq_some_iff.mp (w.enter?_eq_some_iff.mp hstep).1
          have hcount : (entered + 1).toNat = entered.toNat + 1 := by
            rw [UInt32.toNat_add]
            exact Nat.mod_eq_of_lt (show entered.toNat + 1 < UInt32.size by omega)
          obtain ⟨hwords, hsame⟩ := ih (entered + 1) d (w.collect s d) (by omega)
          simp only [advance, advanceInWords, hstep, add_delta_of_ahead hnext]
          exact ⟨by omega, hsame⟩

/-- A record of the calls changes nothing about advancing. -/
theorem advance_of_recorded {h : Heading} {steps left : Nat} {c target : Cell}
    {t t' : Recording σ}
    (hfar : (Host.ofWorld w).recorded.toWorld.advance h steps c t = (left, target, t')) :
    w.advance h steps c t.state = (left, target, t'.state) := by
  obtain ⟨hleft, htarget, hstate⟩ :=
    (Host.ofWorld w).simulation_recorded.advance h steps c (s := t) rfl
  rw [hfar] at hleft htarget hstate
  exact Prod.ext hleft.symm (Prod.ext htarget.symm hstate.symm)

end World

/-! ### Walks -/

namespace Robot

variable {σ : Type} (w : World σ) (timing : Timing)

/-- A robot that is not busy takes as many steps as there are passable cells ahead of it without a
gap, if they are not more than it is told to take. It stays on the last of them with the heading
that it has, and busy; it looks for something on each of them in their order, and nowhere else; the
motion is completed exactly if all the steps have been taken, and lasts for those that have. Neither
the coordinates nor the count of the cells leave their machine words on the way. -/
theorem walk_isGreatest (hfixed : ∀ s c, w.passable (w.collect s c) = w.passable s)
    (c : Cell) (h : Heading) (steps : UInt32) (s : σ) :
    let r : Robot := ⟨c, h, false⟩
    let moved := r.walk (Host.ofWorld w).recorded.toWorld timing steps.toNat ⟨s, #[], #[]⟩
    ∃ (k : Nat) (target : Cell) (cells : List Cell),
      IsGreatest {k | k ≤ steps.toNat ∧ w.Open s c h k} k ∧
        c.Ahead h k target ∧ cells.length = k ∧
        (∀ i (hi : i < cells.length), c.Ahead h (i + 1) cells[i]) ∧
        moved.robot = ⟨target, h, true⟩ ∧
        moved.world.collected.toList = cells ∧
        moved.motion = ⟨.walk, c, target,
          if k = steps.toNat then .completed else .partly k, timing.step.times k⟩ ∧
        r.walk w timing steps.toNat s = ⟨moved.robot, cells.foldl w.collect s, moved.motion⟩ ∧
        ∃ count : UInt32, count.toNat = k ∧
          w.advanceInWords h steps.toNat 0 c s = (count, target, cells.foldl w.collect s) := by
  intro r moved
  let host := Host.ofWorld w
  obtain ⟨k, target, cells, hk, htarget, hlength, hcells, hfar⟩ :=
    host.recorded.toWorld.exists_advance (fun t e => hfixed t.state e) h steps.toNat c ⟨s, #[], #[]⟩
  -- The recording lets the robot pass where the world does, so both walks go equally far.
  have hplain : w.advance h steps.toNat c s =
      (steps.toNat - k, target, cells.foldl w.collect s) := by
    rw [w.advance_of_recorded hfar]
    exact congrArg (fun s' => (steps.toNat - k, target, s')) (host.state_foldl_collect cells _)
  have hmoved : moved = _ := walk_of_advance host.recorded.toWorld timing (r := r) rfl hfar hk.1.1
  have hroom : (0 : UInt32).toNat + steps.toNat < UInt32.size := by
    rw [UInt32.toNat_zero, Nat.zero_add]
    exact steps.toNat_lt
  obtain ⟨hcount, hsame⟩ := w.advanceInWords_eq h steps.toNat 0 c s hroom
  rw [hplain] at hcount hsame
  refine ⟨k, target, cells, hk, htarget, hlength, hcells, by rw [hmoved], ?_, by rw [hmoved], ?_,
    (w.advanceInWords h steps.toNat 0 c s).1, ?_, Prod.ext rfl hsame⟩
  · rw [hmoved]
    exact host.collected_foldl_collect cells _
  · rw [walk_of_advance w timing (r := r) rfl hplain hk.1.1, hmoved]
  · have hle : k ≤ steps.toNat := hk.1.1
    rw [UInt32.toNat_zero] at hcount
    dsimp only at hcount
    omega

/-- Two free cells in front of an obstacle, and things to collect on both sides of it. -/
theorem walk_isGreatest_level :
    let w := Level.world
    let level := Level.build 5 1 [⟨3, 0⟩] [⟨2, 0⟩, ⟨4, 0⟩] none
    let moved := (⟨⟨0, 0⟩, .right, false⟩ : Robot).walk (Host.ofWorld w).recorded.toWorld .usual 5
      ⟨level, #[], #[]⟩
    (∀ l c, w.passable (w.collect l c) = w.passable l) ∧
      IsGreatest {k | k ≤ 5 ∧ w.Open level ⟨0, 0⟩ .right k} 2 ∧
      moved.robot = ⟨⟨2, 0⟩, .right, true⟩ ∧
      moved.world.collected.toList = [⟨1, 0⟩, ⟨2, 0⟩] ∧
      moved.motion.outcome = .partly 2 := by
  intro w level moved
  have hfixed : ∀ l c, w.passable (w.collect l c) = w.passable l :=
    fun l c => funext fun d => l.passable_collect c d
  have hcollected : moved.world.collected.toList = [⟨1, 0⟩, ⟨2, 0⟩] := by decide
  obtain ⟨k, target, cells, hk, -, hlength, -, -, hcells, -⟩ :=
    walk_isGreatest w .usual hfixed ⟨0, 0⟩ .right 5 level
  obtain rfl : cells = [⟨1, 0⟩, ⟨2, 0⟩] := hcells.symm.trans hcollected
  obtain rfl : 2 = k := hlength
  exact ⟨hfixed, hk, by decide, hcollected, by decide⟩

/-- One step in front of the end of the grid, there is one cell ahead. -/
example :
    let everywhere : World Unit := ⟨fun _ _ => true, fun s _ => s⟩
    let r : Robot := ⟨⟨2147483646, 0⟩, .right, false⟩
    (r.walk everywhere .usual 5 ()).motion =
      ⟨.walk, ⟨2147483646, 0⟩, ⟨2147483647, 0⟩, .partly 1, Timing.usual.step⟩ := by
  decide

end Robot

end TangibleBlocks
