import TangibleBlocks.Proofs.Execution.Trace
import TangibleBlocks.Proofs.Robot.Moving

/-!
Busy robots in executions. Every motion is completed before the next one begins,
so a command leaves a robot exactly as busy as it was. A robot that is not busy
never refuses a motion during a run; one that is busy refuses them all and does
nothing but look for something to collect on the cell on which it stands.
-/

namespace TangibleBlocks

namespace Host

open Activity (Keeps)

variable {σ : Type} (h : Host σ) (p : Pace)

/-- A motion that has not been refused releases the robot. -/
theorem busy_settle (m : Motion) (r : Robot) (s : σ) :
    (h.settle m r s).robot.busy = (m.isRejected && r.busy) := by
  unfold settle Robot.complete
  cases m.isRejected <;> rfl

theorem settle_rejected (k : Motion.Kind) (c : Cell) (r : Robot) (s : σ) :
    h.settle (.rejected k c) r s = ⟨r, s, .ofMotion (.rejected k c)⟩ := rfl

theorem busy_turn (d : Option Heading) (r : Robot) (s : σ) :
    (h.turn p d r s).robot.busy = r.busy := by
  cases d with
  | none => rfl
  | some d =>
      simp only [turn, busy_settle, Robot.isRejected_face]
      cases hr : r.busy with
      | true => rw [Robot.face_of_busy p.timing hr, hr]; rfl
      | false => rfl

theorem busy_act (c : Command) (r : Robot) (s : σ) : (h.act p c r s).robot.busy = r.busy := by
  unfold act
  cases c.action with
  | walk =>
      simp only [walk, busy_settle, Robot.isRejected_walk]
      cases hr : r.busy with
      | true => rw [Robot.walk_of_busy h.toWorld p.timing hr, hr]; rfl
      | false => rfl
  | jump =>
      simp only [jump, busy_settle, Robot.isRejected_jump]
      cases hr : r.busy with
      | true => rw [Robot.jump_of_busy h.toWorld p.timing hr, hr]; rfl
      | false => rfl
  | pickUp => rfl
  | stay => rfl

theorem busy_execute (c : Command) (r : Robot) (s : σ) :
    (h.execute p c r s).robot.busy = r.busy :=
  (h.busy_act p c _ _).trans (h.busy_turn p c.direction r s)

/-! ### Refusals -/

theorem isRejected_of_mem_deed (c : Command) (r : Robot) (s : σ) :
    ∀ m ∈ (h.deed p c r s).motions, m.isRejected = r.busy := by
  refine List.forall_mem_append.mpr
    ⟨forall_mem_motions_turn (Robot.isRejected_face p.timing r) c.direction _, ?_⟩
  -- Turning has left the robot that acts as busy as it was.
  rw [← h.recorded.busy_turn p c.direction r ⟨s, #[], #[]⟩]
  exact forall_mem_motions_act (fun n => Robot.isRejected_walk _ p.timing _ n _)
    (fun n => Robot.isRejected_jump _ p.timing _ n _) c

theorem isRejected_of_mem_run (program : Program) (r : Robot) (s : Recording σ) :
    ∀ m ∈ (h.recorded.run p program r s).report.motions, m.isRejected = r.busy := by
  have hdeeds := forall_mem_deeds (h := h) (p := p) (I := fun r' _ => r'.busy = r.busy)
    (P := fun d => ∀ m ∈ d.motions, m.isRejected = r.busy)
    (fun c r' s' hr' => (h.busy_execute p c r' s').trans hr')
    (fun c r' s' hr' m hm => (h.isRejected_of_mem_deed p c r' s' m hm).trans hr')
    (program.executed (h.recorded.run p program r s).report) (s := s.state) rfl
  intro m hm
  rw [(h.run_recorded p program r s).1] at hm
  obtain ⟨d, hd, hmd⟩ := List.mem_flatMap.mp hm
  exact hdeeds d hd m hmd

/-! ### Busy robots -/

section Busy

variable {r : Robot} (hr : r.busy = true)

include hr

theorem turn_of_busy (d : Option Heading) (s : σ) :
    (h.turn p d r s).robot = r ∧ (h.turn p d r s).state = s := by
  cases d with
  | none => exact ⟨rfl, rfl⟩
  | some d =>
      have hturn : h.turn p (some d) r s = ⟨r, s, .ofMotion (.rejected .turn r.cell)⟩ := by
        simp only [turn, Robot.face_of_busy p.timing hr, settle_rejected]
      rw [hturn]
      exact ⟨rfl, rfl⟩

theorem act_of_busy (c : Command) (s : σ) :
    (h.act p c r s).robot = r ∧
      (h.act p c r s).state =
        if c.picksUp then h.wait (h.collect s r.cell) p.delays.pickUp else s := by
  obtain ⟨a, d, n⟩ := c
  cases a with
  | walk =>
      have hwalk : h.walk p n r s = ⟨r, s, .ofMotion (.rejected .walk r.cell)⟩ := by
        simp only [walk, Robot.walk_of_busy h.toWorld p.timing hr, settle_rejected]
      exact ⟨congrArg Progress.robot hwalk, congrArg Progress.state hwalk⟩
  | jump =>
      have hjump : h.jump p n r s = ⟨r, s, .ofMotion (.rejected .jump r.cell)⟩ := by
        simp only [jump, Robot.jump_of_busy h.toWorld p.timing hr, settle_rejected]
      exact ⟨congrArg Progress.robot hjump, congrArg Progress.state hjump⟩
  | pickUp => exact ⟨rfl, rfl⟩
  | stay => exact ⟨rfl, rfl⟩

theorem execute_of_busy (c : Command) (s : σ) : (h.execute p c r s).robot = r := by
  have hturn := (h.turn_of_busy p hr c.direction s).1
  have hact := (h.act_of_busy p hr c (h.turn p c.direction r s).state).1
  simp only [execute, Activity.andThen, pause, hturn, hact]

theorem visited_of_busy (c : Command) (s : σ) :
    (h.deed p c r s).visited = if c.picksUp then [r.cell] else [] := by
  obtain ⟨hrobot, hstate⟩ := h.recorded.turn_of_busy p hr c.direction ⟨s, #[], #[]⟩
  have hact := (h.recorded.act_of_busy p hr c ⟨s, #[], #[]⟩).2
  simp only [deed, hrobot, hstate, hact]
  split <;> rfl

/-- The pick-ups are all that a busy robot collects, and it collects where it stands. -/
theorem flatMap_visited_of_busy (cs : List Command) (s : σ) :
    (h.deeds p cs r s).flatMap Deed.visited =
      List.replicate (cs.countP Command.picksUp) r.cell := by
  induction cs generalizing s with
  | nil => rfl
  | cons c cs ih =>
      rw [deeds, List.flatMap_cons, visited_of_busy h p hr, execute_of_busy h p hr, ih,
        List.countP_cons]
      cases c.picksUp with
      | true => simp [List.replicate_succ]
      | false => simp

end Busy

/-- A robot that is not busy at the start of a run is not busy before or after any command, and it
refuses nothing. A robot that is busy refuses everything; it stays as it is, and the only calls are
those of the pick-ups, although all commands are gone through unless the run is cancelled. -/
theorem run_keeps_busy (program : Program) (r : Robot) (s : Recording σ) :
    let run := h.recorded.run p program r s
    let executed := program.executed run.report
    run.unrecorded = h.run p program r s.state ∧
      run.robot = (h.recorded.executeAll p executed r s).robot ∧
      run.state = (h.recorded.executeAll p executed r s).state ∧
      (r.busy = false →
        (∀ cs, cs <+: executed → (h.recorded.executeAll p cs r s).robot.busy = false) ∧
        (∀ m ∈ run.report.motions, m.outcome ≠ .rejected) ∧
        run.report.rejectedMotions = 0 ∧
        ∃ last, run.report.finalState = some last ∧ last.busy = false) ∧
      (r.busy = true →
        (∀ m ∈ run.report.motions, m.outcome = .rejected) ∧
        run.report.rejectedMotions = run.report.motions.length ∧
        run.robot = r ∧
        run.report.finalState = some r ∧
        run.state.collected.toList = s.collected.toList ++
          List.replicate (executed.countP Command.picksUp) r.cell ∧
        (run.report.cancelled = false → run.report.commandsExecuted = program.commandCount)) := by
  intro run executed
  have hrobot : run.robot = (h.recorded.executeAll p executed r s).robot :=
    h.recorded.robot_run p program r s
  have hfinal : run.report.finalState = some run.robot := h.recorded.finalState_run p program r s
  have hbusy (cs : List Command) : (h.recorded.executeAll p cs r s).robot.busy = r.busy :=
    keeps_executeAll (I := fun r' _ => r'.busy = r.busy)
      (fun c r' s' hr' => (h.recorded.busy_execute p c r' s').trans hr') cs r s rfl
  have hmotions : ∀ m ∈ run.report.motions, m.isRejected = r.busy :=
    h.isRejected_of_mem_run p program r s
  have hcount : run.report.rejectedMotions = run.report.motions.countP Motion.isRejected :=
    (h.recorded.tallied_run p program r s).rejectedMotions
  refine ⟨h.unrecorded_run p program r s, hrobot,
    h.recorded.state_run p program r s, ?_, ?_⟩
  · intro hr
    have haccepted : ∀ m ∈ run.report.motions, m.isRejected = false := by simpa [hr] using hmotions
    refine ⟨fun cs _ => (hbusy cs).trans hr, ?_, ?_, run.robot, hfinal, ?_⟩
    · intro m hm
      simpa [Motion.isRejected] using haccepted m hm
    · rw [hcount, List.countP_eq_zero]
      intro m hm
      simp [haccepted m hm]
    · rw [hrobot, hbusy, hr]
  · intro hr
    have hrefused : ∀ m ∈ run.report.motions, m.isRejected = true := by simpa [hr] using hmotions
    have hstays : run.robot = r := by
      rw [hrobot]
      exact keeps_executeAll (I := fun r' _ => r' = r)
        (fun c r' s' hr' => by rw [hr', h.recorded.execute_of_busy p hr]) executed r s rfl
    refine ⟨?_, ?_, hstays, by rw [hfinal, hstays], ?_, ?_⟩
    · intro m hm
      simpa [Motion.isRejected] using hrefused m hm
    · rw [hcount]
      exact List.countP_eq_length.mpr hrefused
    · rw [(h.run_recorded p program r s).2.1]
      exact congrArg _ (h.flatMap_visited_of_busy p hr executed s.state)
    · intro hc
      rw [← h.recorded.length_executed p program r s, h.recorded.executed_eq_unroll p hc]
      exact program.length_unroll_eq_commandCount

end Host

end TangibleBlocks
