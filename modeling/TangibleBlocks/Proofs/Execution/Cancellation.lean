import TangibleBlocks.Proofs.Execution.Sequencing
import TangibleBlocks.Proofs.Program.Unrolling

/-!
What an execution does before it is cancelled. The surroundings may throw the
switch in any call. The commands are then executed up to the first cut of the
program at which the switch is thrown, all of them and none of those that follow,
and the report says so exactly if something was left to be started there.
-/

namespace TangibleBlocks

namespace Host

variable {σ : Type} (h : Host σ) (p : Pace)

/-! ### Lists of commands without a look at the switch -/

theorem report_execute (c : Command) (r : Robot) (s : σ) :
    (h.execute p c r s).report.commandsExecuted = 1 ∧
      (h.execute p c r s).report.cancelled = false ∧
      (h.execute p c r s).report.finalState = none := by
  obtain ⟨a, d, n⟩ := c
  cases d <;> cases a <;> exact ⟨rfl, rfl, rfl⟩

theorem report_executeAll (cs : List Command) (r : Robot) (s : σ) :
    (h.executeAll p cs r s).report.commandsExecuted = cs.length ∧
      (h.executeAll p cs r s).report.cancelled = false ∧
      (h.executeAll p cs r s).report.finalState = none := by
  induction cs generalizing r s with
  | nil => exact ⟨rfl, rfl, rfl⟩
  | cons c cs ih =>
      obtain ⟨hn, hc, hf⟩ := h.report_execute p c r s
      let first := h.execute p c r s
      obtain ⟨hn', hc', hf'⟩ := ih first.robot first.state
      have hreport : (h.executeAll p (c :: cs) r s).report =
          first.report ++ (h.executeAll p cs first.robot first.state).report := rfl
      rw [hreport]
      simp only [Report.append_def, Report.append, first, hn, hc, hf, hn', hc', hf',
        List.length_cons]
      exact ⟨Nat.add_comm _ _, rfl, rfl⟩

variable {h p}

theorem cancelled_executeAll_of_prefix {as bs : List Command} (hab : as <+: bs) {r : Robot} {s : σ}
    (hs : h.cancelled (h.executeAll p as r s).state = true) :
    h.cancelled (h.executeAll p bs r s).state = true := by
  obtain ⟨cs, rfl⟩ := hab
  rw [executeAll_append]
  exact h.invariant_cancelled.executeAll cs _ hs

/-! ### Stopping at a cut -/

variable (h p)

/-- The cut at which an execution ends that comes to a cut and then to others: the first of them
with the switch thrown, or else the last. -/
def stop (r : Robot) (s : σ) : Cut → List Cut → Cut
  | c, [] => c
  | c, d :: rest => if h.cancelled (h.executeAll p c.done r s).state then c else stop r s d rest

/-- The look at the switch with the given nodes still to be started. -/
def leave (ns : List Node) : Activity σ :=
  fun r s => ⟨r, s, if h.cancelled s then .ofLeaving ns else .empty⟩

/-- The execution that ends at the first of some cuts with the switch thrown. -/
def stopped (c : Cut) (ds : List Cut) : Activity σ :=
  fun r s =>
    let last := h.stop p r s c ds
    (h.executeAll p last.done).andThen (h.leave last.rest) r s

theorem exists_stop (r : Robot) (s : σ) (c : Cut) (ds : List Cut) :
    ∃ before after, c :: ds = before ++ h.stop p r s c ds :: after ∧
      (∀ d ∈ before, h.cancelled (h.executeAll p d.done r s).state = false) ∧
      (after ≠ [] →
        h.cancelled (h.executeAll p (h.stop p r s c ds).done r s).state = true) := by
  induction ds generalizing c with
  | nil => exact ⟨[], [], rfl, by simp, by simp⟩
  | cons d ds ih =>
      simp only [stop]
      split
      case isTrue hs => exact ⟨[], d :: ds, rfl, by simp, fun _ => hs⟩
      case isFalse hs =>
          obtain ⟨before, after, he, hb, ha⟩ := ih d
          refine ⟨c :: before, after, by rw [he, List.cons_append], ?_, ha⟩
          intro e hmem
          rcases List.mem_cons.mp hmem with rfl | hmem
          · simpa using hs
          · exact hb e hmem

/-- Having executed some commands, an execution stops where one would that starts there. -/
theorem stop_behind (cs : List Command) (c : Cut) (ds : List Cut) (r : Robot) (s : σ) :
    h.stop p r s (c.behind cs) (ds.map (Cut.behind cs)) =
      (h.stop p (h.executeAll p cs r s).robot (h.executeAll p cs r s).state c ds).behind cs := by
  induction ds generalizing c with
  | nil => rfl
  | cons d ds ih =>
      simp only [List.map_cons, stop, ih, Cut.done_behind, executeAll_append, Activity.andThen]
      split <;> rfl

theorem stopped_behind (cs : List Command) (c : Cut) (ds : List Cut) :
    h.stopped p (c.behind cs) (ds.map (Cut.behind cs)) =
      (h.executeAll p cs).andThen (h.stopped p c ds) := by
  funext r s
  simp only [stopped, stop_behind, Cut.done_behind, Cut.rest_behind, executeAll_append,
    Activity.andThen_assoc]
  rfl

variable {h}

theorem stopped_of_cancelled {s : σ} (hs : h.cancelled s = true) (ns : List Node)
    (ds : List Cut) (r : Robot) : h.stopped p ⟨[], ns⟩ ds r s = ⟨r, s, .ofLeaving ns⟩ := by
  have hstop : h.stop p r s ⟨[], ns⟩ ds = ⟨[], ns⟩ := by
    cases ds with
    | nil => rfl
    | cons d ds => exact if_pos hs
  simp [stopped, hstop, leave, hs]

/-- As long as the switch is not thrown, it does not matter what is left to be started. -/
theorem stopped_of_going {s : σ} (hs : h.cancelled s = false) (ms ns : List Node)
    (ds : List Cut) (r : Robot) :
    h.stopped p ⟨[], ms⟩ ds r s = h.stopped p ⟨[], ns⟩ ds r s := by
  cases ds with
  | nil => simp [stopped, stop, leave, hs]
  | cons d ds => simp [stopped, stop, Activity.skip, hs]

theorem stopped_cons_of_going {s : σ} (hs : h.cancelled s = false) (ns : List Node) (d : Cut)
    (ds : List Cut) (r : Robot) :
    h.stopped p ⟨[], ns⟩ (d :: ds) r s = h.stopped p d ds r s := by
  simp [stopped, stop, Activity.skip, hs]

variable (h)

/-! ### Executions stop at cuts -/

/-- A loop and what follows it. A loop that is left has something left to be started, and the
nodes behind it only say so again. -/
theorem rounds_andThen_nodes {rest : List Node}
    (hrest : h.nodes p rest = h.stopped p ⟨[], rest⟩ (Cut.ofNodes rest)) (body : List Command)
    (n : Nat) :
    (h.rounds p body n).andThen (h.nodes p rest) =
      h.stopped p ⟨[], Cut.remaining n body rest⟩
        (Cut.ofRounds body rest (Cut.ofNodes rest) n) := by
  induction n with
  | zero => rw [rounds_zero, Activity.skip_andThen, hrest]; rfl
  | succ n ih =>
      funext r s
      cases hs : h.cancelled s with
      | true =>
          rw [stopped_of_cancelled p hs, Activity.andThen, rounds_succ_of_cancelled p hs,
            nodes_of_cancelled p hs, Report.ofCancelling_append_ofLeaving, Cut.remaining_succ,
            Report.ofLeaving_cons]
      | false =>
          calc (h.rounds p body (n + 1)).andThen (h.nodes p rest) r s
              = ((h.executeAll p body).andThen (h.rounds p body n)).andThen (h.nodes p rest) r s := by
                simp only [Activity.andThen, rounds_succ_of_going p hs]
            _ = (h.executeAll p body).andThen
                  (h.stopped p ⟨[], Cut.remaining n body rest⟩
                    (Cut.ofRounds body rest (Cut.ofNodes rest) n)) r s := by
                rw [Activity.andThen_assoc, ih]
            _ = _ := by
                rw [← stopped_behind, Cut.ofRounds, List.map_cons, stopped_cons_of_going p hs]

theorem nodes_eq_stopped (ns : List Node) :
    h.nodes p ns = h.stopped p ⟨[], ns⟩ (Cut.ofNodes ns) := by
  induction ns with
  | nil =>
      funext r s
      simp [Cut.ofNodes, stopped, stop, leave, Activity.skip, Activity.andThen]
  | cons n rest ih =>
      funext r s
      cases hs : h.cancelled s with
      | true => rw [nodes_of_cancelled p hs, stopped_of_cancelled p hs]
      | false =>
          rw [nodes_cons_of_going p hs]
          cases n with
          | command c =>
              rw [node, ← executeAll_singleton, ih, ← stopped_behind, Cut.ofNodes, List.map_cons,
                stopped_cons_of_going p hs]
          | loop k body =>
              rw [node, rounds_andThen_nodes h p ih, Cut.ofNodes]
              exact stopped_of_going p hs _ _ _ _

/-- The cut at which the execution of a program ends. -/
def lastCut (program : Program) (r : Robot) (s : σ) : Cut :=
  h.stop p r s ⟨[], program.nodes⟩ (Cut.ofNodes program.nodes)

theorem exists_lastCut (program : Program) (r : Robot) (s : σ) :
    ∃ before after, program.cuts = before ++ h.lastCut p program r s :: after ∧
      (∀ d ∈ before, h.cancelled (h.executeAll p d.done r s).state = false) ∧
      (after ≠ [] →
        h.cancelled (h.executeAll p (h.lastCut p program r s).done r s).state = true) :=
  h.exists_stop p r s ⟨[], program.nodes⟩ (Cut.ofNodes program.nodes)

theorem run_eq_executeAll_lastCut (program : Program) (r : Robot) (s : σ) :
    let c := h.lastCut p program r s
    let d := h.executeAll p c.done r s
    h.run p program r s =
      ⟨d.robot, d.state, { d.report with
        cancelled := h.cancelled d.state && !c.rest.isEmpty
        finalState := some d.robot }⟩ := by
  intro c d
  obtain ⟨-, hc, -⟩ := h.report_executeAll p c.done r s
  have hrun : h.run p program r s = ⟨d.robot, d.state,
      d.report ++ (if h.cancelled d.state then .ofLeaving c.rest else .empty) ++ .ofEnd d.robot⟩ := by
    rw [run, nodes_eq_stopped]
    rfl
  rw [hrun]
  have hd : d.report.cancelled = false := hc
  cases h.cancelled d.state <;>
    simp [Report.append_def, Report.append, Report.ofLeaving, Report.ofEnd, Report.empty, hd]

/-- The commands that are executed are those before the first cut at which the switch is thrown, or
all of them if that never happens; the robot, the surroundings and the counts of the report are
those of executing them one after the other. The report says that the execution has been cancelled
exactly if there is a cut at which the switch is thrown and something is left to be started.

Since the surroundings may be any, they may also keep a record of every call. -/
theorem run_stops_at_cut (program : Program) (r : Robot) (s : σ) :
    let reached (c : Cut) := h.executeAll p c.done r s
    let run := h.run p program r s
    ∃ before c after, program.cuts = before ++ c :: after ∧
      (∀ d ∈ before, h.cancelled (reached d).state = false) ∧
      (∀ d ∈ after, h.cancelled (reached d).state = true) ∧
      (h.cancelled (reached c).state = true ∨ after = [] ∧ c.done = program.unroll) ∧
      c.done <+: program.unroll ∧
      run.report.commandsExecuted = c.done.length ∧
      run.robot = (reached c).robot ∧
      run.state = (reached c).state ∧
      run.report = { (reached c).report with
        cancelled := run.report.cancelled
        finalState := some run.robot } ∧
      (run.report.cancelled = true ↔
        ∃ d ∈ program.cuts, h.cancelled (reached d).state = true ∧ d.rest ≠ []) ∧
      (c.rest = [] → run.report.cancelled = false) := by
  intro reached run
  obtain ⟨before, after, hc, hbefore, hafter⟩ := h.exists_lastCut p program r s
  let c := h.lastCut p program r s
  have hmem : c ∈ program.cuts := by rw [hc]; simp [c]
  have hrun := h.run_eq_executeAll_lastCut p program r s
  have hlater : ∀ d ∈ after, c.Before d := fun d hd => Cut.before_of_cuts_eq hc hd
  have hcancelled : run.report.cancelled = true ↔
      h.cancelled (reached c).state = true ∧ c.rest ≠ [] := by
    simp only [run, hrun]
    simp [reached, c]
  refine ⟨before, c, after, hc, hbefore, ?_, ?_, Cut.done_prefix_unroll hmem, ?_, ?_, ?_, ?_, ?_, ?_⟩
  · intro d hd
    exact cancelled_executeAll_of_prefix (hlater d hd).2 (hafter (List.ne_nil_of_mem hd))
  · cases after with
    | nil => exact .inr ⟨rfl, Cut.done_eq_unroll hc⟩
    | cons d after => exact .inl (hafter (List.cons_ne_nil _ _))
  · simp only [run, hrun]
    exact (h.report_executeAll p c.done r s).1
  · simp only [run, hrun]
    rfl
  · simp only [run, hrun]
    rfl
  · simp only [run, hrun]
    rfl
  · rw [hcancelled]
    constructor
    · rintro ⟨hs, hrest⟩
      exact ⟨c, hmem, hs, hrest⟩
    · rintro ⟨d, hd, hs, hrest⟩
      rw [hc] at hd
      rcases List.mem_append.mp hd with hd | hd
      · exact absurd hs (by simp [reached, hbefore d hd])
      · rcases List.mem_cons.mp hd with rfl | hd
        · exact ⟨hs, hrest⟩
        · exact ⟨hafter (List.ne_nil_of_mem hd), (hlater d hd).1⟩
  · intro hrest
    exact Bool.eq_false_iff.mpr fun hs => (hcancelled.mp hs).2 hrest

/-- Surroundings in which the first thing that is collected throws the switch. -/
example :
    let h : Host Bool := ⟨⟨fun _ _ => true, fun _ _ => true⟩, fun s _ => s, id,
      fun _ _ _ => rfl, fun _ _ hs => hs⟩
    let step := Command.once .walk
    let left := h.run .usual ⟨[.loop 3 [step, step], .command step]⟩ (.idle ⟨0, 0⟩ .right) false
    let ended := h.run .usual ⟨[.loop 1 [step, step]]⟩ (.idle ⟨0, 0⟩ .right) false
    left.report.commandsExecuted = 2 ∧ left.report.cancelled = true ∧
      ended.report.commandsExecuted = 2 ∧ ended.report.cancelled = false := by decide

end Host

end TangibleBlocks
