import TangibleBlocks.Grid.Level
import TangibleBlocks.Proofs.Execution.Trace
import TangibleBlocks.Proofs.Robot.Moving

/-!
Where a run leads. The motions of a report follow each other from the cell on
which the robot starts to the one on which it ends. The robot looks for
something to collect on every cell over which it walks, on every cell on which
it lands and, to pick something up, on the cell on which it stands, and nowhere
else. If cells do not become passable or impassable in the meantime, then all
the cells that are entered are passable.
-/

namespace TangibleBlocks

namespace Motion

/-- The motions lead from one cell to another, each of them from where the one before it ended. -/
def Connected : Cell → List Motion → Cell → Prop
  | c, [], d => c = d
  | c, m :: ms, d => m.origin = c ∧ Connected m.target ms d

theorem connected_singleton (m : Motion) : Connected m.origin [m] m.target :=
  ⟨rfl, rfl⟩

theorem Connected.append {a b c : Cell} {ms ns : List Motion} (hms : Connected a ms b)
    (hns : Connected b ns c) : Connected a (ms ++ ns) c := by
  induction ms generalizing a with
  | nil =>
      obtain rfl : a = b := hms
      exact hns
  | cons m ms ih => exact ⟨hms.1, ih hms.2⟩

end Motion

/-- The cells on which an action looks for something to collect: all cells of a walk, the one on
which a jump lands, and the one on which the robot picks something up. -/
def Action.Visits (a : Action) (r : Robot) (moved : List Motion) (cells : List Cell) : Prop :=
  match a with
  | .walk => ∃ m, moved = [m] ∧
      if m.isRejected then cells = [] else Cell.Leads r.heading m.origin cells m.target
  | .jump => ∃ m, moved = [m] ∧ cells = if m.outcome = .completed then [m.target] else []
  | .pickUp => moved = [] ∧ cells = [r.cell]
  | .stay => moved = [] ∧ cells = []

namespace Robot

variable {σ : Type} (w : World σ) (timing : Timing) (r : Robot)

theorem origin_face (h : Heading) : (r.face timing h).2.origin = r.cell := by
  unfold face
  split <;> rfl

theorem target_face (h : Heading) : (r.face timing h).2.target = (r.face timing h).1.cell := by
  unfold face
  split <;> rfl

theorem cell_face (h : Heading) : (r.face timing h).1.cell = r.cell := by
  unfold face
  split <;> rfl

theorem origin_walk (steps : Nat) (s : σ) : (r.walk w timing steps s).motion.origin = r.cell := by
  unfold walk
  split <;> rfl

theorem target_walk (steps : Nat) (s : σ) :
    (r.walk w timing steps s).motion.target = (r.walk w timing steps s).robot.cell := by
  unfold walk
  split <;> rfl

theorem origin_jump (steps : Nat) (s : σ) : (r.jump w timing steps s).motion.origin = r.cell := by
  unfold jump
  split
  · rfl
  · split <;> rfl

theorem target_jump (steps : Nat) (s : σ) :
    (r.jump w timing steps s).motion.target = (r.jump w timing steps s).robot.cell := by
  unfold jump
  split
  · rfl
  · split <;> rfl

end Robot

namespace Host

open Activity (Keeps)
open Motion (Connected)

variable {σ : Type} (h : Host σ) (p : Pace)

theorem cell_settle (m : Motion) (r : Robot) (s : σ) : (h.settle m r s).robot.cell = r.cell := by
  unfold settle Robot.complete
  cases m.isRejected <;> rfl

theorem cell_turn (d : Option Heading) (r : Robot) (s : σ) :
    (h.turn p d r s).robot.cell = r.cell := by
  cases d with
  | none => rfl
  | some d => exact (h.cell_settle _ _ s).trans (r.cell_face p.timing d)

/-! ### Motions follow each other -/

theorem connected_settle {m : Motion} {r r' : Robot} {s : σ} (horigin : m.origin = r.cell)
    (htarget : m.target = r'.cell) :
    Connected r.cell (h.settle m r' s).report.motions (h.settle m r' s).robot.cell := by
  rw [cell_settle, ← horigin, ← htarget]
  exact Motion.connected_singleton m

theorem connected_turn (d : Option Heading) (r : Robot) (s : σ) :
    Connected r.cell (h.turn p d r s).report.motions (h.turn p d r s).robot.cell := by
  cases d with
  | none => exact rfl
  | some d => exact h.connected_settle (r.origin_face p.timing d) (r.target_face p.timing d)

theorem connected_act (c : Command) (r : Robot) (s : σ) :
    Connected r.cell (h.act p c r s).report.motions (h.act p c r s).robot.cell := by
  unfold act
  cases c.action with
  | walk => exact h.connected_settle (r.origin_walk _ _ _ s) (r.target_walk _ _ _ s)
  | jump => exact h.connected_settle (r.origin_jump _ _ _ s) (r.target_jump _ _ _ s)
  | pickUp => exact rfl
  | stay => exact rfl

theorem connected_execute (c : Command) (r : Robot) (s : σ) :
    Connected r.cell (h.execute p c r s).report.motions (h.execute p c r s).robot.cell :=
  (h.connected_turn p c.direction r s).append ((h.connected_act p c _ _).append rfl)

theorem connected_run (program : Program) (r : Robot) (s : σ) :
    Connected r.cell (h.run p program r s).report.motions (h.run p program r s).robot.cell :=
  (Activity.congruence_report (P := fun r a r' => Connected r.cell a.motions r'.cell)
    (fun _ => rfl) (fun _ => rfl) Connected.append).run (q := p) (h.connected_execute p)
    (fun _ _ => rfl) program r s

/-! ### Visited cells -/

theorem collected_settle (m : Motion) (r : Robot) (t : Recording σ) :
    (h.recorded.settle m r t).state.collected = t.collected := by
  unfold settle
  cases m.isRejected <;> rfl

theorem collected_turn (d : Option Heading) (r : Robot) (t : Recording σ) :
    (h.recorded.turn p d r t).state.collected = t.collected := by
  cases d with
  | none => rfl
  | some d => exact h.collected_settle _ _ t

theorem collected_foldl_collect (cells : List Cell) (t : Recording σ) :
    (cells.foldl h.recorded.collect t).collected.toList = t.collected.toList ++ cells := by
  induction cells generalizing t with
  | nil => simp
  | cons c cells ih =>
      rw [List.foldl_cons, ih]
      simp [recorded]

theorem state_foldl_collect (cells : List Cell) (t : Recording σ) :
    (cells.foldl h.recorded.collect t).state = cells.foldl h.collect t.state := by
  induction cells generalizing t with
  | nil => rfl
  | cons c cells ih => exact ih _

section Passable

variable {h} {free : Cell → Bool} (hI : h.Invariant fun t => h.passable t = free)

include hI

/-- When a motion over some cells has been settled, they are recorded. They could be entered, and
so could the cell on which the robot is now, if it has moved. -/
theorem exists_visits_settle {a : Action} {r : Robot} {t : Recording σ}
    {moved : Moved (Recording σ)} {cells : List Cell}
    (hworld : moved.world = cells.foldl h.recorded.collect t)
    (hadmits : h.recorded.toWorld.Admits t cells)
    (hcell : moved.robot.cell = r.cell ∨ moved.robot.cell ∈ cells)
    (hvisits : a.Visits r [moved.motion] cells) (ht : h.passable t.state = free) :
    let done := h.recorded.settle moved.motion moved.robot moved.world
    ∃ cells, done.state.collected.toList = t.collected.toList ++ cells ∧
      a.Visits r done.report.motions cells ∧ (a ≠ .pickUp → ∀ c ∈ cells, free c = true) ∧
      (done.robot.cell = r.cell ∨ free done.robot.cell = true) := by
  intro done
  have hcells : ∀ c ∈ cells, free c = true := by
    intro c hc
    obtain ⟨t', ht', hfree⟩ := (hadmits.of_invariant hI.recorded.collect ht).2 c hc
    rw [← ht']
    exact hfree
  refine ⟨cells, ?_, hvisits, fun _ => hcells, ?_⟩
  · rw [collected_settle, hworld, collected_foldl_collect]
  · rw [cell_settle]
    exact hcell.imp_right (hcells _)

theorem exists_visits_act (c : Command) (r : Robot) {t : Recording σ}
    (ht : h.passable t.state = free) :
    let done := h.recorded.act p c r t
    ∃ cells, done.state.collected.toList = t.collected.toList ++ cells ∧
      c.action.Visits r done.report.motions cells ∧
      (c.action ≠ .pickUp → ∀ x ∈ cells, free x = true) ∧
      (done.robot.cell = r.cell ∨ free done.robot.cell = true) := by
  simp only [act]
  cases c.action with
  | walk =>
      obtain ⟨cells, hworld, hadmits, hcell, hvisits⟩ :=
        Robot.exists_cells_walk h.recorded.toWorld p.timing r c.count t
      exact exists_visits_settle hI hworld hadmits hcell ⟨_, rfl, hvisits⟩ ht
  | jump =>
      obtain ⟨cells, hworld, hadmits, hcell, hvisits⟩ :=
        Robot.exists_cells_jump h.recorded.toWorld p.timing r c.count t
      exact exists_visits_settle hI hworld hadmits hcell ⟨_, rfl, hvisits⟩ ht
  | pickUp =>
      exact ⟨[r.cell], h.collected_foldl_collect [r.cell] t, ⟨rfl, rfl⟩,
        fun hne => absurd rfl hne, .inl rfl⟩
  | stay => exact ⟨[], (List.append_nil _).symm, ⟨rfl, rfl⟩, by simp, .inl rfl⟩

/-- What one command visits, and where it leaves the robot. -/
theorem visits_deed (c : Command) (r : Robot) {s : σ} (hs : h.passable s = free) :
    let d := h.deed p c r s
    d.command.action.Visits d.robot d.moved d.visited ∧
      (d.command.action ≠ .pickUp → ∀ x ∈ d.visited, free x = true) ∧
      ((h.execute p c r s).robot.cell = r.cell ∨ free (h.execute p c r s).robot.cell = true) := by
  intro d
  let turned := h.recorded.turn p c.direction r ⟨s, #[], #[]⟩
  have hturned : h.passable turned.state.state = free :=
    (hI.recorded.simulation.turn (p := p) c.direction r ⟨s, #[], #[]⟩ _ ⟨rfl, hs⟩).2.1.2
  obtain ⟨cells, hcollected, hvisits, hfree, hcell⟩ :=
    exists_visits_act p hI c turned.robot hturned
  -- Turning looks for nothing, so the record begins with what the action looks at.
  have hvisited : d.visited = cells := by
    rw [h.collected_turn p c.direction r ⟨s, #[], #[]⟩] at hcollected
    exact hcollected
  have hrobot : (h.execute p c r s).robot = (h.recorded.act p c turned.robot turned.state).robot :=
    (h.execute_recorded p c r ⟨s, #[], #[]⟩).1.symm
  have hstart : turned.robot.cell = r.cell := h.recorded.cell_turn p c.direction r _
  rw [hvisited, hrobot, ← hstart]
  exact ⟨hvisits, hfree, hcell⟩

theorem keeps_place (start : Cell) (c : Command) :
    Keeps (fun r s => (r.cell = start ∨ free r.cell = true) ∧ h.passable s = free)
      (h.execute p c) := by
  rintro r s ⟨hr, hs⟩
  refine ⟨?_, (hI.simulation.execute (p := p) c r s s ⟨rfl, hs⟩).2.1.2⟩
  rcases (visits_deed p hI c r hs).2.2 with hcell | hcell
  · rwa [hcell]
  · exact .inr hcell

end Passable

/-- The motions of a report lead from the start to the end of a run. The recorded cells are those
that the commands have visited, one command after the other; those that the robot has entered on a
walk or on landing are passable. So it ends where it started or on a passable cell, which in a level
is one inside and without an obstacle. -/
theorem run_path {free : Cell → Bool} (hI : h.Invariant fun t => h.passable t = free)
    (program : Program) (r : Robot) (s : Recording σ) (hs : h.passable s.state = free) :
    let run := h.recorded.run p program r s
    let ds := h.deeds p (program.executed run.report) r s.state
    run.unrecorded = h.run p program r s.state ∧
      ds.map Deed.command = program.executed run.report ∧
      run.report.motions = ds.flatMap Deed.motions ∧
      Connected r.cell run.report.motions run.robot.cell ∧
      run.report.finalState = some run.robot ∧
      run.state.collected.toList = s.collected.toList ++ ds.flatMap Deed.visited ∧
      (∀ d ∈ ds, d.command.action.Visits d.robot d.moved d.visited ∧
        (d.command.action ≠ .pickUp → ∀ c ∈ d.visited, free c = true)) ∧
      (run.robot.cell = r.cell ∨ free run.robot.cell = true) ∧
      (∀ level : Level, free = level.passable →
        run.robot.cell = r.cell ∨
          level.inBounds run.robot.cell = true ∧ run.robot.cell ∉ level.blocked) := by
  intro run ds
  obtain ⟨hmotions, hcollected, -⟩ := h.run_recorded p program r s
  -- Every command leaves the robot where the run has started or on a passable cell.
  have hplace := keeps_executeAll (keeps_place p hI.recorded r.cell)
    (program.executed run.report) r s ⟨.inl rfl, hs⟩
  have hcell : run.robot.cell = r.cell ∨ free run.robot.cell = true := by
    rw [h.recorded.robot_run p program r s]
    exact hplace.1
  have hdeeds := forall_mem_deeds
    (P := fun d => d.command.action.Visits d.robot d.moved d.visited ∧
      (d.command.action ≠ .pickUp → ∀ c ∈ d.visited, free c = true))
    (keeps_place p hI r.cell)
    (fun c r' s' hrs => ⟨(visits_deed p hI c r' hrs.2).1, (visits_deed p hI c r' hrs.2).2.1⟩)
    (program.executed run.report) (r := r) (s := s.state) ⟨.inl rfl, hs⟩
  refine ⟨h.unrecorded_run p program r s, h.map_command_deeds p _ r s.state, hmotions,
    h.recorded.connected_run p program r s, h.recorded.finalState_run p program r s, hcollected,
    hdeeds, hcell, ?_⟩
  intro level hlevel
  refine hcell.imp_right fun hfree => ?_
  simpa [hlevel, Level.passable] using hfree

/-- A step, an obstacle in front of the next one, and a jump over the edge of the level. -/
theorem run_path_level :
    let h := Host.ofWorld Level.world
    let level := Level.build 4 3 [⟨3, 0⟩] [⟨1, 0⟩] none
    let program : Program :=
      ⟨[.loop 2 [(Command.once .walk).facing .right, .once .pickUp],
        .command ((Command.once .jump).facing .up)]⟩
    let run := h.recorded.run .usual program (.idle ⟨1, 0⟩ .up) ⟨level, #[], #[]⟩
    h.Invariant (fun t => h.passable t = level.passable) ∧ h.passable level = level.passable ∧
      Connected ⟨1, 0⟩ run.report.motions run.robot.cell ∧
      run.report.finalState = some run.robot ∧
      (run.robot.cell = ⟨1, 0⟩ ∨
        level.inBounds run.robot.cell = true ∧ run.robot.cell ∉ level.blocked) := by
  intro h level program run
  have hI : h.Invariant fun t => h.passable t = level.passable :=
    ⟨fun t c ht => (funext fun d => t.passable_collect c d).trans ht, fun _ _ ht => ht⟩
  obtain ⟨-, -, -, hmotions, hfinal, -, -, -, hlevel⟩ :=
    run_path h .usual hI program (.idle ⟨1, 0⟩ .up) ⟨level, #[], #[]⟩ rfl
  exact ⟨hI, rfl, hmotions, hfinal, hlevel level rfl⟩

end Host

end TangibleBlocks
