import TangibleBlocks.Grid.Level
import TangibleBlocks.Proofs.Execution.Cancellation

/-!
Loops mean what they are written for: as long as nobody throws the switch, a
program does the same as its unrolled form, command by command.
-/

namespace TangibleBlocks

namespace Host

variable {σ : Type} (h : Host σ) (p : Pace)

/-- If the switch is not even thrown at the end, then all commands are executed. -/
theorem run_of_going (program : Program) (r : Robot) (s : σ)
    (hs : h.cancelled (h.executeAll p program.unroll r s).state = false) :
    let d := h.executeAll p program.unroll r s
    h.run p program r s = ⟨d.robot, d.state, { d.report with finalState := some d.robot }⟩ := by
  intro d
  obtain ⟨before, after, hc, -, hafter⟩ := h.exists_lastCut p program r s
  have hlast : (h.lastCut p program r s).done = program.unroll := by
    cases after with
    | nil => exact Cut.done_eq_unroll hc
    | cons e after =>
        -- The switch would have been thrown at this cut, and so at the end.
        have hprefix := Cut.done_prefix_unroll
          (show h.lastCut p program r s ∈ program.cuts by rw [hc]; simp)
        have hthrown := cancelled_executeAll_of_prefix hprefix (hafter (List.cons_ne_nil _ _))
        exact absurd hthrown (by simp [hs])
  have hgoing : d.report.cancelled = false := (h.report_executeAll p program.unroll r s).2.1
  rw [run_eq_executeAll_lastCut]
  simp only [hlast, hs, Bool.false_and]
  rw [← hgoing]

/-- Where there is no switch, nothing is cancelled. -/
theorem cancelled_run_ofWorld (w : World σ) (program : Program) (r : Robot) (s : σ) :
    ((ofWorld w).run p program r s).report.cancelled = false := by
  rw [(ofWorld w).run_of_going p program r s rfl]
  exact ((ofWorld w).report_executeAll p program.unroll r s).2.1

/-- In surroundings that never throw the switch, a program and its unrolled form leave the same
robot and the same surroundings behind, with the same report and the same calls. All the commands
are executed, as many as the program counts. -/
theorem run_unrolled (hI : h.Invariant fun s => h.cancelled s = false) (program : Program)
    (r : Robot) (s : Recording σ) (hs : h.cancelled s.state = false) :
    let looped := h.recorded.run p program r s
    let straight := h.recorded.run p program.unrolled r s
    looped.unrecorded = h.run p program r s.state ∧
      straight.unrecorded = h.run p program.unrolled r s.state ∧
      looped.report = straight.report ∧
      looped.report.cancelled = false ∧
      looped.robot = straight.robot ∧
      looped.state.state = straight.state.state ∧
      looped.state.collected = straight.state.collected ∧
      looped.state.waits = straight.state.waits ∧
      looped.report.commandsExecuted = program.commandCount ∧
      program.commandCount = program.unroll.length := by
  intro looped straight
  let d := h.recorded.executeAll p program.unroll r s
  have hgoing : h.recorded.cancelled d.state = false :=
    hI.recorded.executeAll program.unroll r hs
  have hlooped : looped = ⟨d.robot, d.state, { d.report with finalState := some d.robot }⟩ :=
    h.recorded.run_of_going p program r s hgoing
  have hstraight : straight = looped := by
    rw [hlooped]
    have hunroll := program.unroll_unrolled
    have hrun := h.recorded.run_of_going p program.unrolled r s (by rw [hunroll]; exact hgoing)
    rw [hunroll] at hrun
    exact hrun
  obtain ⟨hn, hc, -⟩ := h.recorded.report_executeAll p program.unroll r s
  refine ⟨h.unrecorded_run p program r s, h.unrecorded_run p program.unrolled r s, ?_⟩
  rw [hstraight, hlooped, ← program.length_unroll_eq_commandCount]
  exact ⟨rfl, hc, rfl, rfl, rfl, rfl, hn, rfl⟩

/-- A busy robot at a wall, with a loop that is never entered and one with an empty body. -/
theorem run_unrolled_level :
    let h := Host.ofWorld Level.world
    let level := Level.build 3 3 [⟨2, 0⟩] [⟨1, 0⟩] none
    let step := (Command.once .walk).facing .right
    let program : Program :=
      ⟨[.loop 3 [step, .once .pickUp], .loop 0 [step], .loop 2 [], .command (.once .jump)]⟩
    let looped := h.recorded.run .usual program ⟨⟨0, 0⟩, .up, true⟩ ⟨level, #[], #[]⟩
    let straight := h.recorded.run .usual program.unrolled ⟨⟨0, 0⟩, .up, true⟩ ⟨level, #[], #[]⟩
    h.Invariant (fun s => h.cancelled s = false) ∧ h.cancelled level = false ∧
      looped.report = straight.report ∧ looped.state.collected = straight.state.collected ∧
      looped.report.commandsExecuted = 7 := by
  intro h level step program looped straight
  have hI : h.Invariant fun s => h.cancelled s = false := ⟨fun _ _ _ => rfl, fun _ _ _ => rfl⟩
  obtain ⟨-, -, hreport, -, -, -, hcollected, -, hcount, -⟩ :=
    run_unrolled h .usual hI program ⟨⟨0, 0⟩, .up, true⟩ ⟨level, #[], #[]⟩ rfl
  exact ⟨hI, rfl, hreport, hcollected, hcount⟩

end Host

end TangibleBlocks
