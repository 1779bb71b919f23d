import TangibleBlocks.Proofs.Robot.Walking

/-!
Where a robot jumps. A jump leads one cell farther than the robot is told, if that
cell is passable, and whatever lies between has no say in it. Its length has to
fit into the word of a coordinate, however. Only from one half of the grid into
the other there are longer jumps that would end on the grid, and these are given
up, although a walk of the same length would get there.
-/

namespace TangibleBlocks

namespace Cell

variable {c d e : Cell} {h : Heading} {m n : Nat}

theorem Ahead.eq (hd : c.Ahead h n d) (he : c.Ahead h n e) : d = e := by
  have hsame : some d = some e := (offset?_eq_some_iff.mpr hd).symm.trans (offset?_eq_some_iff.mpr he)
  exact Option.some.inj hsame

theorem exists_toInt_eq {i : Int} (hleast : least ≤ i) (hgreatest : i ≤ greatest) :
    ∃ x : Int32, x.toInt = i :=
  ⟨Int32.ofInt i, coordinate?_eq_some_iff.mp (if_pos ⟨hleast, hgreatest⟩)⟩

theorem coordinate_bounds (x : Int32) : least ≤ x.toInt ∧ x.toInt ≤ greatest := by
  have hleast : -2147483648 ≤ x.toInt := x.le_toInt
  have hgreatest : x.toInt < 2147483648 := x.toInt_lt
  unfold least greatest
  omega

/-- Between two cells there is nothing but cells. -/
theorem Ahead.exists_ahead (hd : c.Ahead h n d) (hmn : m ≤ n) : ∃ e, c.Ahead h m e := by
  have hx := coordinate_bounds c.x
  have hy := coordinate_bounds c.y
  have hdx := coordinate_bounds d.x
  have hdy := coordinate_bounds d.y
  obtain ⟨hright, hdown⟩ := hd
  obtain ⟨x, hx'⟩ : ∃ x : Int32, x.toInt = c.x.toInt + h.delta.1 * m := by
    apply exists_toInt_eq <;> cases h <;> simp only [Heading.delta] at hright ⊢ <;> omega
  obtain ⟨y, hy'⟩ : ∃ y : Int32, y.toInt = c.y.toInt + h.delta.2 * m := by
    apply exists_toInt_eq <;> cases h <;> simp only [Heading.delta] at hdown ⊢ <;> omega
  exact ⟨⟨x, y⟩, hx', hy'⟩

/-! ### Machine words -/

/-- The next number, if it has a place in the word. -/
def successor? (n : UInt32) : Option UInt32 :=
  if n.toNat + 1 < UInt32.size then some (n + 1) else none

theorem successor?_eq_some_iff {i j : UInt32} : successor? i = some j ↔ j.toNat = i.toNat + 1 := by
  unfold successor?
  constructor
  · intro hj
    obtain ⟨hroom, rfl⟩ := Option.ite_some_none_eq_some.mp hj
    rw [UInt32.toNat_add]
    exact Nat.mod_eq_of_lt hroom
  · intro hj
    have hroom : i.toNat + 1 < UInt32.size := hj ▸ j.toNat_lt
    rw [if_pos hroom, Option.some.injEq, ← UInt32.toNat_inj, UInt32.toNat_add, hj]
    exact Nat.mod_eq_of_lt hroom

/-- Where a jump ends, and how long it is, in machine words. There is no answer if the length, a
product or a sum has no place in its word. -/
def landingInWords? (c : Cell) (h : Heading) (steps : UInt32) : Option (UInt32 × Cell) := do
  let length ← successor? steps
  let reach ← coordinate? length.toNat
  let right ← coordinate? (h.delta.1 * reach.toInt)
  let x ← coordinate? (c.x.toInt + right.toInt)
  let down ← coordinate? (h.delta.2 * reach.toInt)
  let y ← coordinate? (c.y.toInt + down.toInt)
  return (length, ⟨x, y⟩)

/-- Only the length can be too great for its word where there is a cell to land on. -/
theorem landingInWords?_eq_some_iff {steps length : UInt32} :
    c.landingInWords? h steps = some (length, d) ↔
      length.toNat = steps.toNat + 1 ∧ (length.toNat : Int) ≤ greatest ∧
        c.Ahead h length.toNat d := by
  simp only [landingInWords?, Option.bind_eq_bind, Option.bind_eq_some_iff, coordinate?_eq_some_iff,
    successor?_eq_some_iff, Option.pure_def, Option.some.injEq, Prod.mk.injEq]
  constructor
  · rintro ⟨_, hlength, reach, hreach, right, hright, x, hx, down, hdown, y, hy, rfl, rfl⟩
    rw [← hreach]
    refine ⟨hlength, (coordinate_bounds reach).2, ?_, ?_⟩
    · show x.toInt = _
      rw [hx, hright, hreach]
    · show y.toInt = _
      rw [hy, hdown, hreach]
  · rintro ⟨hlength, hreach, hx, hy⟩
    obtain ⟨reach, hreach'⟩ : ∃ reach : Int32, reach.toInt = length.toNat :=
      exists_toInt_eq (by unfold least; omega) hreach
    -- The products are the reach, its negative or zero.
    have hword (i : Int) (hi : i.natAbs ≤ 1) : ∃ z : Int32, z.toInt = i * reach.toInt := by
      rw [hreach']
      have hcases : i = -1 ∨ i = 0 ∨ i = 1 := by omega
      apply exists_toInt_eq <;> rcases hcases with rfl | rfl | rfl <;>
        simp only [least, greatest] at hreach ⊢ <;> omega
    have hstep := h.delta_natAbs
    obtain ⟨right, hright⟩ := hword h.delta.1 (by omega)
    obtain ⟨down, hdown⟩ := hword h.delta.2 (by omega)
    exact ⟨length, hlength, reach, hreach', right, hright, d.x, by rw [hx, hright, hreach'], down,
      hdown, d.y, by rw [hy, hdown, hreach'], rfl, rfl⟩

end Cell

/-- A cell on which a jump of the given length would land: it is on the grid and passable. -/
def World.Landing {σ : Type} (w : World σ) (s : σ) (c : Cell) (h : Heading) (length : Nat)
    (d : Cell) : Prop :=
  c.Ahead h length d ∧ w.passable s d = true

/-- The same without the record. -/
def Moved.unrecorded {σ : Type} (m : Moved (Recording σ)) : Moved σ :=
  ⟨m.robot, m.world.state, m.motion⟩

namespace Robot

variable {σ : Type}

/-! ### Keeping a record -/

section Recorded

variable (w : World σ) (timing : Timing) (r : Robot) (steps : Nat) (t : Recording σ)

/-- A record of the calls changes nothing about walks and jumps. -/
theorem unrecorded_walk :
    (r.walk (Host.ofWorld w).recorded.toWorld timing steps t).unrecorded =
      r.walk w timing steps t.state := by
  unfold walk Moved.unrecorded
  split
  · rfl
  · generalize hfar : (Host.ofWorld w).recorded.toWorld.advance r.heading steps r.cell t = far
    obtain ⟨left, target, t'⟩ := far
    rw [w.advance_of_recorded hfar]

theorem unrecorded_jump :
    (r.jump (Host.ofWorld w).recorded.toWorld timing steps t).unrecorded =
      r.jump w timing steps t.state := by
  have hpassable : (Host.ofWorld w).recorded.passable t = w.passable t.state := rfl
  unfold jump Moved.unrecorded
  rw [hpassable]
  split
  · rfl
  · split <;> rfl

end Recorded

/-! ### Jumps -/

variable (w : World σ) (timing : Timing) {r : Robot}

theorem landing?_eq_some_iff {steps : Nat} {d : Cell} :
    r.landing? steps = some d ↔
      (steps : Int) + 1 ≤ Cell.greatest ∧ r.cell.Ahead r.heading (steps + 1) d := by
  unfold landing?
  split
  next hle => simp only [Cell.offset?_eq_some_iff, hle, true_and]
  next hle => simp only [hle, false_and, reduceCtorEq]

theorem jump_of_landing (hr : r.busy = false) {steps : Nat} {s : σ} {d : Cell}
    (hle : (steps : Int) + 1 ≤ Cell.greatest)
    (hd : w.Landing s r.cell r.heading (steps + 1) d) :
    r.jump w timing steps s = ⟨{ r with cell := d, busy := true }, w.collect s d,
      ⟨.jump, r.cell, d, .completed, timing.step.times (steps + 1)⟩⟩ := by
  have hland : r.landing? steps = some d := landing?_eq_some_iff.mpr ⟨hle, hd.1⟩
  simp only [jump, hr, Bool.false_eq_true, if_false, hland, Option.filter_some, hd.2, if_true]

theorem jump_of_no_landing (hr : r.busy = false) {steps : Nat} {s : σ}
    (hnone : ¬ ((steps : Int) + 1 ≤ Cell.greatest ∧
      ∃ d, w.Landing s r.cell r.heading (steps + 1) d)) :
    r.jump w timing steps s = ⟨r, s, .voided r.cell⟩ := by
  rcases exists_jump_of_idle w timing hr steps s with hjump | ⟨d, hland, hfree, -⟩
  · exact hjump
  · obtain ⟨hle, hahead⟩ := landing?_eq_some_iff.mp hland
    exact absurd ⟨hle, d, hahead, hfree⟩ hnone

/-- A robot that is not busy completes a jump exactly if its length has a place in the word of a
coordinate and the cell that many steps ahead is on the grid and passable, whatever lies between.
Then it stands on that cell with the heading that it has, and busy, has looked for something there
and nowhere else, and the motion lasts for all of the length. Otherwise the motion is given up, and
neither the robot nor the world has changed. So a jump is completed exactly if there is a cell to
land on, but for jumps whose length has no place in the word. The cell comes out the same in machine
words. -/
theorem jump_completed_iff (c : Cell) (h : Heading) (steps : UInt32) (s : σ) :
    let r : Robot := ⟨c, h, false⟩
    let length := steps.toNat + 1
    let moved := r.jump (Host.ofWorld w).recorded.toWorld timing steps.toNat ⟨s, #[], #[]⟩
    (moved.motion.outcome = .completed ↔
        (length : Int) ≤ Cell.greatest ∧ ∃ d, w.Landing s c h length d) ∧
      ((moved.motion.outcome = .completed ↔ ∃ d, w.Landing s c h length d) ↔
        ((∃ d, w.Landing s c h length d) → (length : Int) ≤ Cell.greatest)) ∧
      (moved.motion.outcome = .completed → ∃ d, w.Landing s c h length d ∧
        moved.robot = ⟨d, h, true⟩ ∧ moved.world = ⟨w.collect s d, #[d], #[]⟩ ∧
        moved.motion = ⟨.jump, c, d, .completed, timing.step.times length⟩) ∧
      (moved.motion.outcome ≠ .completed → moved = ⟨r, ⟨s, #[], #[]⟩, .voided c⟩) ∧
      moved.unrecorded = r.jump w timing steps.toNat s ∧
      ∀ count d, c.landingInWords? h steps = some (count, d) ↔
        count.toNat = length ∧ r.landing? steps.toNat = some d := by
  intro r length moved
  let recorded := (Host.ofWorld w).recorded.toWorld
  have hlands : ∀ d, (length : Int) ≤ Cell.greatest → w.Landing s c h length d →
      moved = ⟨⟨d, h, true⟩, ⟨w.collect s d, #[d], #[]⟩,
        ⟨.jump, c, d, .completed, timing.step.times length⟩⟩ :=
    fun d hle hd => jump_of_landing recorded timing (r := r) rfl hle hd
  have hvoided : ¬ ((length : Int) ≤ Cell.greatest ∧ ∃ d, w.Landing s c h length d) →
      moved = ⟨r, ⟨s, #[], #[]⟩, .voided c⟩ :=
    fun hnone => jump_of_no_landing recorded timing (r := r) rfl hnone
  have hiff : moved.motion.outcome = .completed ↔
      (length : Int) ≤ Cell.greatest ∧ ∃ d, w.Landing s c h length d := by
    constructor
    · intro hcompleted
      refine Classical.byContradiction fun hnone => ?_
      rw [hvoided hnone] at hcompleted
      cases hcompleted
    · rintro ⟨hle, d, hd⟩
      rw [hlands d hle hd]
  refine ⟨hiff, ?_, ?_, fun hne => hvoided fun hland => hne (hiff.mpr hland),
    r.unrecorded_jump w timing steps.toNat ⟨s, #[], #[]⟩, fun count d => ?_⟩
  · rw [hiff]
    exact ⟨fun hsame hd => (hsame.mpr hd).1, fun hle => ⟨And.right, fun hd => ⟨hle hd, hd⟩⟩⟩
  · intro hcompleted
    obtain ⟨hle, d, hd⟩ := hiff.mp hcompleted
    rw [hlands d hle hd]
    exact ⟨d, hd, rfl, rfl, rfl⟩
  · rw [Cell.landingInWords?_eq_some_iff, landing?_eq_some_iff]
    refine and_congr_right fun hcount => ?_
    rw [hcount, Int.natCast_add, Int.natCast_one]

/-- Walking as far as the cells are passable leads to the cell that is so many steps ahead. -/
theorem cell_walk_of_open (hfixed : ∀ s c, w.passable (w.collect s c) = w.passable s)
    (hr : r.busy = false) {n : Nat} {s : σ} {d : Cell} (hopen : w.Open s r.cell r.heading n)
    (hd : r.cell.Ahead r.heading n d) : (r.walk w timing n s).robot.cell = d := by
  obtain ⟨k, target, cells, hk, htarget, -, -, hfar⟩ :=
    World.exists_advance hfixed r.heading n r.cell s
  obtain rfl : k = n := Nat.le_antisymm hk.1.1 (hk.2 ⟨Nat.le_refl n, hopen⟩)
  rw [walk_of_advance w timing hr hfar (Nat.le_refl k)]
  exact htarget.eq hd

/-- From the left edge of the grid into its middle: the cell is there, and a walk would lead to it,
but the jump is given up. -/
theorem jump_voided_on_grid :
    let w : World Unit := ⟨fun _ _ => true, fun s _ => s⟩
    let r : Robot := ⟨⟨-2147483648, 0⟩, .right, false⟩
    w.Landing () r.cell r.heading (2147483647 + 1) ⟨0, 0⟩ ∧
      (r.jump w .usual 2147483647 ()).motion.outcome = .voided ∧
      (r.walk w .usual (2147483647 + 1) ()).robot.cell = ⟨0, 0⟩ := by
  intro w r
  have hd : r.cell.Ahead r.heading (2147483647 + 1) ⟨0, 0⟩ := ⟨by decide, by decide⟩
  refine ⟨⟨hd, rfl⟩, by decide, ?_⟩
  refine cell_walk_of_open w .usual (fun _ _ => rfl) rfl (fun i _ hi => ?_) hd
  obtain ⟨e, he⟩ := hd.exists_ahead hi
  exact ⟨e, he, rfl⟩

end Robot

end TangibleBlocks
