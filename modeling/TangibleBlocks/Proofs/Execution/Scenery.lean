import TangibleBlocks.Grid.Level
import TangibleBlocks.Proofs.Execution.Loops
import TangibleBlocks.Proofs.Execution.Trace
import TangibleBlocks.Proofs.Robot.Moving

/-!
What an execution depends on. If nobody throws the switch, the surroundings
matter for nothing but the cells that a robot may enter: every execution is like
one on a board on which only these cells are marked, where nothing lies and
nobody waits. And on a board the pace can be seen in nothing but the durations of
the motions.
-/

namespace TangibleBlocks

/-! ### Reports without durations -/

namespace Report

/-- A report without the durations of its motions. -/
def untimed (a : Report) : Report × List (Motion.Kind × Cell × Cell × Motion.Outcome) :=
  ({ a with motions := [] }, a.motions.map Motion.route)

theorem untimed_append (a b : Report) :
    (a ++ b).untimed = (a.untimed.1 ++ b.untimed.1, a.untimed.2 ++ b.untimed.2) :=
  Prod.ext rfl List.map_append

/-- A motion is counted for what it is, however long it takes. -/
theorem untimed_ofMotion {m m' : Motion} (h : m.route = m'.route) :
    (ofMotion m).untimed = (ofMotion m').untimed := by
  obtain ⟨k, c, d, o, t⟩ := m
  obtain ⟨k', c', d', o', t'⟩ := m'
  simp only [Motion.route, Prod.mk.injEq] at h
  obtain ⟨rfl, rfl, rfl, rfl⟩ := h
  rfl

end Report

namespace Activity

variable {σ : Type}

/-- Two activities that do the same, perhaps in different times. -/
def AgreesUntimed (a b : Activity σ) : Prop :=
  ∀ r s, (a r s).robot = (b r s).robot ∧ (a r s).state = (b r s).state ∧
    (a r s).report.untimed = (b r s).report.untimed

theorem congruence_agreesUntimed (h : Host σ) : Congruence h h AgreesUntimed where
  skip := fun _ _ => ⟨rfl, rfl, rfl⟩
  andThen := by
    intro a b a' b' ha hb r s
    obtain ⟨hrobot, hstate, hreport⟩ := ha r s
    obtain ⟨hrobot', hstate', hreport'⟩ := hb (a' r s).robot (a' r s).state
    simp only [andThen, hrobot, hstate, Report.untimed_append, hreport, hreport']
    exact ⟨hrobot', hstate', trivial⟩
  unlessCancelled := by
    intro a a' ha r s
    unfold unlessCancelled
    split
    · exact ⟨rfl, rfl, rfl⟩
    · exact ha r s

theorem congruence_eq (h : Host σ) : Congruence h h fun a b => a = b where
  skip := rfl
  andThen := fun ha hb => by rw [ha, hb]
  unlessCancelled := fun ha => by rw [ha]

end Activity

namespace Host

open Activity (AgreesUntimed Matches)

/-! ### Boards -/

/-- A board on which some cells may be entered. It only records where something was to be
collected. -/
def board (free : Cell → Bool) : Host (Array Cell) where
  passable _ := free
  collect cells c := cells.push c
  wait cells _ := cells
  cancelled _ := false
  cancelled_collect _ _ h := h
  cancelled_wait _ _ h := h

section Board

variable {free : Cell → Bool} (p q : Pace)

theorem settle_board {m m' : Motion} (h : m.route = m'.route) :
    AgreesUntimed ((board free).settle m) ((board free).settle m') := by
  have houtcome : m.outcome = m'.outcome := congrArg (fun route => route.2.2.2) h
  have hrejected : m.isRejected = m'.isRejected := by simp only [Motion.isRejected, houtcome]
  intro r s
  refine ⟨?_, ?_, Report.untimed_ofMotion h⟩
  · simp only [settle, Robot.complete, hrejected]
  · simp only [settle, board, ite_self]

theorem turn_board (d : Option Heading) :
    AgreesUntimed ((board free).turn p d) ((board free).turn q d) := by
  cases d with
  | none => exact (Activity.congruence_agreesUntimed (board free)).skip
  | some d =>
      intro r s
      obtain ⟨hrobot, hroute⟩ := Robot.route_face p.timing q.timing r d
      simp only [turn, hrobot]
      exact settle_board hroute _ s

theorem act_board (c : Command) : AgreesUntimed ((board free).act p c) ((board free).act q c) := by
  unfold act
  cases c.action with
  | walk =>
      intro r s
      obtain ⟨hrobot, hworld, hroute⟩ :=
        Robot.route_walk (board free).toWorld p.timing q.timing r c.count s
      simp only [walk, hrobot, hworld]
      exact settle_board hroute _ _
  | jump =>
      intro r s
      obtain ⟨hrobot, hworld, hroute⟩ :=
        Robot.route_jump (board free).toWorld p.timing q.timing r c.count s
      simp only [jump, hrobot, hworld]
      exact settle_board hroute _ _
  | pickUp => exact fun _ _ => ⟨rfl, rfl, rfl⟩
  | stay => exact (Activity.congruence_agreesUntimed (board free)).skip

theorem execute_board (c : Command) :
    AgreesUntimed ((board free).execute p c) ((board free).execute q c) := by
  have hcongruence := Activity.congruence_agreesUntimed (board free)
  refine hcongruence.andThen (turn_board p q _) (hcongruence.andThen (act_board p q c) ?_)
  exact fun _ _ => ⟨rfl, rfl, rfl⟩

/-- On a board the pace can be seen in the durations alone. -/
theorem run_board (program : Program) :
    AgreesUntimed ((board free).run p program) ((board free).run q program) :=
  (Activity.congruence_agreesUntimed _).run (execute_board p q) (fun _ _ => ⟨rfl, rfl, rfl⟩)
    program

variable {p q}

theorem run_board_of_timing (h : p.timing = q.timing) (program : Program) :
    (board free).run p program = (board free).run q program := by
  refine (Activity.congruence_eq _).run (fun c => ?_) rfl program
  obtain ⟨timing, delays⟩ := p
  obtain rfl : timing = q.timing := h
  rfl

end Board

/-! ### Other surroundings -/

section Uninterrupted

variable {σ : Type} {h : Host σ} {p : Pace}

/-- The surroundings with a switch that has no effect. -/
def uninterrupted (h : Host σ) : Host σ :=
  { h with
    cancelled := fun _ => false
    cancelled_collect := fun _ _ hs => hs
    cancelled_wait := fun _ _ hs => hs }

theorem run_uninterrupted {program : Program} {r : Robot} {s : σ}
    (hc : (h.run p program r s).report.cancelled = false) :
    h.run p program r s = h.uninterrupted.run p program r s := by
  rw [h.run_of_uncancelled p hc, h.uninterrupted.run_of_going p program r s rfl]
  rfl

/-- A robot that looks at the cells in front of it cannot tell its surroundings from a board. -/
theorem simulation_board {free : Cell → Bool} (hfree : h.Invariant fun s => h.passable s = free) :
    Simulation h.recorded.uninterrupted (board free)
      fun s cells => h.passable s.state = free ∧ s.collected = cells where
  passable := fun _ _ hs => hs.1
  cancelled := fun _ _ _ => rfl
  collect := fun s _ c hs => ⟨hfree.collect s.state c hs.1, congrArg (Array.push · c) hs.2⟩
  wait := fun s _ d hs => ⟨hfree.wait s.state d hs.1, hs.2⟩

/-- An execution that is not cancelled does what it would do on a board. -/
theorem run_eq_board {free : Cell → Bool} (hfree : h.Invariant fun s => h.passable s = free)
    (program : Program) (r : Robot) (s : Recording σ) (hs : h.passable s.state = free)
    (hc : (h.run p program r s.state).report.cancelled = false) :
    let run := h.recorded.run p program r s
    let onBoard := (board free).run p program r s.collected
    run.robot = onBoard.robot ∧ run.state.collected = onBoard.state ∧
      run.report = onBoard.report := by
  intro run onBoard
  have hcancelled : run.report.cancelled = false := by
    rw [← h.unrecorded_run p program r s] at hc
    exact hc
  have hrun : run = h.recorded.uninterrupted.run p program r s := run_uninterrupted hcancelled
  obtain ⟨hrobot, ⟨-, hcollected⟩, hreport⟩ :=
    (simulation_board hfree).run (p := p) program r s s.collected ⟨hs, rfl⟩
  rw [hrun]
  exact ⟨hrobot, hcollected, hreport⟩

end Uninterrupted

/-- Two executions of a program that are not cancelled, in any surroundings with the same cells to
enter and at any paces, differ in nothing but the durations of the motions, and not even there if
steps and turns take the same time. What lies on the cells, where the robot is to go and how long
it has to wait makes no difference: it ends in the same state and looks for things on the same
cells in the same order.

The cells that may be entered have to stay the same while things are collected and time goes by. -/
theorem run_ignores_scenery {σ τ : Type} {h : Host σ} {h' : Host τ} {free : Cell → Bool}
    (hfree : h.Invariant fun s => h.passable s = free)
    (hfree' : h'.Invariant fun t => h'.passable t = free)
    (p q : Pace) (program : Program) (r : Robot) {s : σ} {t : τ}
    (hs : h.passable s = free) (ht : h'.passable t = free)
    (hc : (h.run p program r s).report.cancelled = false)
    (hc' : (h'.run q program r t).report.cancelled = false) :
    let one := h.recorded.run p program r ⟨s, #[], #[]⟩
    let other := h'.recorded.run q program r ⟨t, #[], #[]⟩
    one.unrecorded = h.run p program r s ∧
      other.unrecorded = h'.run q program r t ∧
      one.report.untimed = other.report.untimed ∧
      (p.timing = q.timing → one.report = other.report) ∧
      one.robot = other.robot ∧
      one.state.collected = other.state.collected := by
  intro one other
  obtain ⟨hrobot, hcollected, hreport⟩ :=
    run_eq_board hfree program r ⟨s, #[], #[]⟩ hs hc
  obtain ⟨hrobot', hcollected', hreport'⟩ :=
    run_eq_board hfree' program r ⟨t, #[], #[]⟩ ht hc'
  have hpaces : AgreesUntimed ((board free).run p program) ((board free).run q program) :=
    run_board p q program
  obtain ⟨hrobots, hstates, hreports⟩ := hpaces r #[]
  refine ⟨h.unrecorded_run p program r _, h'.unrecorded_run q program r _, ?_, ?_, ?_, ?_⟩
  · rw [hreport, hreport', hreports]
  · intro htiming
    rw [hreport, hreport', run_board_of_timing htiming program]
  · rw [hrobot, hrobot', hrobots]
  · rw [hcollected, hcollected', hstates]

/-- Two levels with the same obstacle and different things to collect, one of them with a goal, for
a robot with patience and one in a hurry. -/
theorem run_ignores_scenery_level :
    let h := Host.ofWorld Level.world
    let level := Level.build 3 2 [⟨2, 0⟩] [⟨1, 0⟩] none
    let level' := Level.build 3 2 [⟨2, 0⟩] [⟨0, 0⟩, ⟨0, 1⟩] (some ⟨1, 1⟩)
    let hurried : Pace := ⟨⟨.zero, .ofMilliseconds 1⟩, ⟨.zero, .zero⟩⟩
    let program : Program :=
      ⟨[.loop 2 [⟨.walk, some .right, 2⟩, .once .pickUp], .command ⟨.jump, some .down, 0⟩]⟩
    let one := h.recorded.run .usual program (.idle ⟨0, 0⟩ .up) ⟨level, #[], #[]⟩
    let other := h.recorded.run hurried program (.idle ⟨0, 0⟩ .up) ⟨level', #[], #[]⟩
    h.Invariant (fun l => h.passable l = level.passable) ∧
      h.passable level' = level.passable ∧
      (h.run .usual program (.idle ⟨0, 0⟩ .up) level).report.cancelled = false ∧
      (h.run hurried program (.idle ⟨0, 0⟩ .up) level').report.cancelled = false ∧
      one.report.untimed = other.report.untimed ∧
      one.robot = other.robot ∧
      one.state.collected = other.state.collected := by
  intro h level level' hurried program one other
  have hfree : h.Invariant fun l => h.passable l = level.passable :=
    ⟨fun l c hl => (funext (l.passable_collect c)).trans hl, fun _ _ hl => hl⟩
  have hsame : h.passable level' = level.passable := by
    funext c
    simp only [h, ofWorld, Level.world, Level.passable, Level.inBounds, level, level', Level.build]
  have hone := cancelled_run_ofWorld .usual Level.world program (.idle ⟨0, 0⟩ .up) level
  have hother := cancelled_run_ofWorld hurried Level.world program (.idle ⟨0, 0⟩ .up) level'
  obtain ⟨-, -, hreport, -, hrobot, hcollected⟩ :=
    run_ignores_scenery hfree hfree .usual hurried program (.idle ⟨0, 0⟩ .up) rfl hsame hone hother
  exact ⟨hfree, hsame, hone, hother, hreport, hrobot, hcollected⟩

end Host

end TangibleBlocks
