import TangibleBlocks.Robot.Moving

/-!
What a motion does. A busy robot refuses every motion, stays as it is and leaves
the world alone. Any other robot turns; or it walks from neighbour to neighbour
as long as it finds a cell that it may enter, collecting on each of them; or it
jumps to a cell that it may enter, or else does nothing.
-/

namespace TangibleBlocks

namespace Cell

/-- The way from `c` to `d` in one direction: every cell is the neighbour of the one before it, the
first that of `c`, and the last one is `d`. -/
def Leads (h : Heading) : Cell → List Cell → Cell → Prop
  | c, [], d => c = d
  | c, e :: es, d => c.next? h = some e ∧ Leads h e es d

/-- A way ends on its last cell, or has not been begun. -/
theorem Leads.eq_or_mem {h : Heading} {c d : Cell} {es : List Cell} (hl : Leads h c es d) :
    d = c ∨ d ∈ es := by
  induction es generalizing c with
  | nil => exact .inl hl.symm
  | cons e es ih =>
      rcases ih hl.2 with rfl | hd
      · exact .inr List.mem_cons_self
      · exact .inr (List.mem_cons_of_mem e hd)

end Cell

namespace World

variable {σ : Type} (w : World σ)

/-- The cells can be entered one after the other, if something is collected on each. -/
def Admits : σ → List Cell → Prop
  | _, [] => True
  | s, c :: cs => w.passable s c = true ∧ Admits (w.collect s c) cs

theorem enter?_eq_some_iff {s : σ} {c d : Cell} {h : Heading} :
    w.enter? s c h = some d ↔ c.next? h = some d ∧ w.passable s d = true := by
  simp [enter?, Option.filter_eq_some_iff]

/-- Advancing goes over neighbours that can be entered. It comes to its end when all the steps have
been taken, or else before a cell that cannot be entered. -/
theorem exists_leads_advance (h : Heading) (n : Nat) (c : Cell) (s : σ) :
    ∃ cells, Cell.Leads h c cells (w.advance h n c s).2.1 ∧ w.Admits s cells ∧
      (w.advance h n c s).2.2 = cells.foldl w.collect s ∧
      (w.advance h n c s).1 + cells.length = n ∧
      ((w.advance h n c s).1 ≠ 0 →
        w.enter? (w.advance h n c s).2.2 (w.advance h n c s).2.1 h = none) := by
  induction n generalizing c s with
  | zero => exact ⟨[], rfl, trivial, rfl, rfl, fun hne => absurd rfl hne⟩
  | succ n ih =>
      cases hstep : w.enter? s c h with
      | none =>
          have hstay : w.advance h (n + 1) c s = (n + 1, c, s) := by simp only [advance, hstep]
          rw [hstay]
          exact ⟨[], rfl, trivial, rfl, rfl, fun _ => hstep⟩
      | some d =>
          have hgo : w.advance h (n + 1) c s = w.advance h n d (w.collect s d) := by
            simp only [advance, hstep]
          obtain ⟨hnext, hfree⟩ := w.enter?_eq_some_iff.mp hstep
          obtain ⟨cells, hleads, hadmits, hstate, hlength, hend⟩ := ih d (w.collect s d)
          rw [hgo]
          refine ⟨d :: cells, ⟨hnext, hleads⟩, ⟨hfree, hadmits⟩, hstate, ?_, hend⟩
          rw [List.length_cons]
          omega

/-- What collecting keeps true holds after a way, and the cells could be entered in such states. -/
theorem Admits.of_invariant {w : World σ} {I : σ → Prop} (hI : ∀ s c, I s → I (w.collect s c))
    {cells : List Cell} {s : σ} (ha : w.Admits s cells) (hs : I s) :
    I (cells.foldl w.collect s) ∧ ∀ c ∈ cells, ∃ t, I t ∧ w.passable t c = true := by
  induction cells generalizing s with
  | nil => exact ⟨hs, by simp⟩
  | cons c cells ih =>
      obtain ⟨hlast, hmem⟩ := ih ha.2 (hI s c hs)
      exact ⟨hlast, List.forall_mem_cons.mpr ⟨⟨s, hs, ha.1⟩, hmem⟩⟩

end World

namespace Robot

variable {σ : Type} (w : World σ) (timing : Timing) {r : Robot}

/-! ### Busy robots -/

theorem face_of_busy (hr : r.busy = true) (h : Heading) :
    r.face timing h = (r, .rejected .turn r.cell) := by
  simp [face, hr]

theorem walk_of_busy (hr : r.busy = true) (steps : Nat) (s : σ) :
    r.walk w timing steps s = ⟨r, s, .rejected .walk r.cell⟩ := by
  simp [walk, hr]

theorem jump_of_busy (hr : r.busy = true) (steps : Nat) (s : σ) :
    r.jump w timing steps s = ⟨r, s, .rejected .jump r.cell⟩ := by
  simp [jump, hr]

/-! ### Other robots -/

theorem face_of_idle (hr : r.busy = false) (h : Heading) :
    r.face timing h =
      ({ r with heading := h }, ⟨.turn, r.cell, r.cell, .completed, timing.turn⟩) := by
  simp [face, hr]

/-- A walk is what advancing makes of it. The steps that are not left have been taken. -/
theorem walk_of_advance (hr : r.busy = false) {steps taken : Nat} {s s' : σ} {target : Cell}
    (hfar : w.advance r.heading steps r.cell s = (steps - taken, target, s'))
    (htaken : taken ≤ steps) :
    r.walk w timing steps s = ⟨{ r with cell := target, busy := true }, s',
      ⟨.walk, r.cell, target, if taken = steps then .completed else .partly taken,
        timing.step.times taken⟩⟩ := by
  have hall : steps - taken = 0 ↔ taken = steps := by omega
  simp only [walk, hr, Bool.false_eq_true, if_false, hfar, hall, Nat.sub_sub_self htaken]

theorem exists_walk_of_idle (hr : r.busy = false) (steps : Nat) (s : σ) :
    ∃ cells target, Cell.Leads r.heading r.cell cells target ∧ w.Admits s cells ∧
      cells.length ≤ steps ∧
      r.walk w timing steps s = ⟨{ r with cell := target, busy := true }, cells.foldl w.collect s,
        ⟨.walk, r.cell, target,
          if cells.length = steps then .completed else .partly cells.length,
          timing.step.times cells.length⟩⟩ := by
  obtain ⟨cells, hleads, hadmits, hstate, hlength, -⟩ :=
    w.exists_leads_advance r.heading steps r.cell s
  refine ⟨cells, _, hleads, hadmits, by omega, ?_⟩
  have hleft : (w.advance r.heading steps r.cell s).1 = steps - cells.length := by omega
  exact walk_of_advance w timing hr (Prod.ext hleft (Prod.ext rfl hstate)) (by omega)

theorem exists_jump_of_idle (hr : r.busy = false) (steps : Nat) (s : σ) :
    r.jump w timing steps s = ⟨r, s, .voided r.cell⟩ ∨
      ∃ c, r.landing? steps = some c ∧ w.passable s c = true ∧
        r.jump w timing steps s = ⟨{ r with cell := c, busy := true }, w.collect s c,
          ⟨.jump, r.cell, c, .completed, timing.step.times (steps + 1)⟩⟩ := by
  simp only [jump, hr, Bool.false_eq_true, if_false]
  split
  case h_1 => exact .inl rfl
  case h_2 c hc =>
      obtain ⟨hland, hfree⟩ := Option.filter_eq_some_iff.mp hc
      exact .inr ⟨c, hland, hfree, rfl⟩

/-! ### All robots -/

@[simp] theorem kind_face (r : Robot) (h : Heading) : (r.face timing h).2.kind = .turn := by
  unfold face
  split <;> rfl

@[simp] theorem kind_walk (r : Robot) (steps : Nat) (s : σ) :
    (r.walk w timing steps s).motion.kind = .walk := by
  unfold walk
  split <;> rfl

@[simp] theorem kind_jump (r : Robot) (steps : Nat) (s : σ) :
    (r.jump w timing steps s).motion.kind = .jump := by
  unfold jump
  split
  · rfl
  · split <;> rfl

/-- A motion is refused exactly by a busy robot. -/
@[simp] theorem isRejected_face (r : Robot) (h : Heading) :
    (r.face timing h).2.isRejected = r.busy := by
  cases hr : r.busy with
  | true => rw [face_of_busy timing hr]; rfl
  | false => rw [face_of_idle timing hr]; rfl

@[simp] theorem isRejected_walk (r : Robot) (steps : Nat) (s : σ) :
    (r.walk w timing steps s).motion.isRejected = r.busy := by
  cases hr : r.busy with
  | true => rw [walk_of_busy w timing hr]; rfl
  | false =>
      obtain ⟨cells, target, -, -, -, hwalk⟩ := exists_walk_of_idle w timing hr steps s
      rw [hwalk]
      by_cases hn : cells.length = steps <;> simp [Motion.isRejected, hn]

@[simp] theorem isRejected_jump (r : Robot) (steps : Nat) (s : σ) :
    (r.jump w timing steps s).motion.isRejected = r.busy := by
  cases hr : r.busy with
  | true => rw [jump_of_busy w timing hr]; rfl
  | false =>
      rcases exists_jump_of_idle w timing hr steps s with hjump | ⟨c, -, -, hjump⟩ <;>
        rw [hjump] <;> rfl

/-- Wherever a walk leads, something is looked for on each of its cells; on none, if the robot
refuses to walk. -/
theorem exists_cells_walk (r : Robot) (steps : Nat) (s : σ) :
    let moved := r.walk w timing steps s
    ∃ cells, moved.world = cells.foldl w.collect s ∧ w.Admits s cells ∧
      (moved.robot.cell = r.cell ∨ moved.robot.cell ∈ cells) ∧
      if moved.motion.isRejected then cells = []
      else Cell.Leads r.heading moved.motion.origin cells moved.motion.target := by
  intro moved
  cases hr : r.busy with
  | true =>
      rw [show moved = _ from walk_of_busy w timing hr steps s]
      exact ⟨[], rfl, trivial, .inl rfl, rfl⟩
  | false =>
      obtain ⟨cells, target, hleads, hadmits, -, hwalk⟩ := exists_walk_of_idle w timing hr steps s
      have haccepted : moved.motion.isRejected = false :=
        (isRejected_walk w timing r steps s).trans hr
      refine ⟨cells, ?_⟩
      rw [haccepted, show moved = _ from hwalk]
      exact ⟨rfl, hadmits, hleads.eq_or_mem, hleads⟩

/-- A jump looks for something where it lands, if it lands anywhere. -/
theorem exists_cells_jump (r : Robot) (steps : Nat) (s : σ) :
    let moved := r.jump w timing steps s
    ∃ cells, moved.world = cells.foldl w.collect s ∧ w.Admits s cells ∧
      (moved.robot.cell = r.cell ∨ moved.robot.cell ∈ cells) ∧
      cells = if moved.motion.outcome = .completed then [moved.motion.target] else [] := by
  intro moved
  cases hr : r.busy with
  | true =>
      rw [show moved = _ from jump_of_busy w timing hr steps s]
      exact ⟨[], rfl, trivial, .inl rfl, rfl⟩
  | false =>
      rcases exists_jump_of_idle w timing hr steps s with hjump | ⟨c, -, hfree, hjump⟩
      · rw [show moved = _ from hjump]
        exact ⟨[], rfl, trivial, .inl rfl, rfl⟩
      · rw [show moved = _ from hjump]
        exact ⟨[c], rfl, ⟨hfree, trivial⟩, .inr List.mem_cons_self, rfl⟩

/-- How long steps and turns take can be seen in nothing but the duration of the motion. -/
theorem route_face (timing' : Timing) (r : Robot) (h : Heading) :
    (r.face timing h).1 = (r.face timing' h).1 ∧
      (r.face timing h).2.route = (r.face timing' h).2.route := by
  unfold face
  split <;> exact ⟨rfl, rfl⟩

theorem route_walk (timing' : Timing) (r : Robot) (steps : Nat) (s : σ) :
    (r.walk w timing steps s).robot = (r.walk w timing' steps s).robot ∧
      (r.walk w timing steps s).world = (r.walk w timing' steps s).world ∧
      (r.walk w timing steps s).motion.route = (r.walk w timing' steps s).motion.route := by
  unfold walk
  split <;> exact ⟨rfl, rfl, rfl⟩

theorem route_jump (timing' : Timing) (r : Robot) (steps : Nat) (s : σ) :
    (r.jump w timing steps s).robot = (r.jump w timing' steps s).robot ∧
      (r.jump w timing steps s).world = (r.jump w timing' steps s).world ∧
      (r.jump w timing steps s).motion.route = (r.jump w timing' steps s).motion.route := by
  unfold jump
  split
  · exact ⟨rfl, rfl, rfl⟩
  · split <;> exact ⟨rfl, rfl, rfl⟩

/-- A motion that has been given up takes no time. -/
theorem duration_face_of_voided (r : Robot) (h : Heading)
    (hv : (r.face timing h).2.outcome = .voided) : (r.face timing h).2.duration = .zero := by
  cases hr : r.busy with
  | true => rw [face_of_busy timing hr]; rfl
  | false => exact absurd hv (by simp [face_of_idle timing hr])

theorem duration_walk_of_voided (r : Robot) (steps : Nat) (s : σ)
    (hv : (r.walk w timing steps s).motion.outcome = .voided) :
    (r.walk w timing steps s).motion.duration = .zero := by
  cases hr : r.busy with
  | true => rw [walk_of_busy w timing hr]; rfl
  | false =>
      obtain ⟨cells, target, -, -, -, hwalk⟩ := exists_walk_of_idle w timing hr steps s
      by_cases hn : cells.length = steps <;> simp [hwalk, hn] at hv

theorem duration_jump_of_voided (r : Robot) (steps : Nat) (s : σ)
    (hv : (r.jump w timing steps s).motion.outcome = .voided) :
    (r.jump w timing steps s).motion.duration = .zero := by
  cases hr : r.busy with
  | true => rw [jump_of_busy w timing hr]; rfl
  | false =>
      rcases exists_jump_of_idle w timing hr steps s with hjump | ⟨c, -, -, hjump⟩
      · rw [hjump]; rfl
      · exact absurd hv (by simp [hjump])

end Robot

end TangibleBlocks
