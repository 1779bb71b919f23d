import TangibleBlocks.Proofs.Execution.Cancellation

/-!
Traces. An execution comes down to the commands that have been executed, one
after the other; they are the first ones of the unrolled program, as many as the
report counts. The trace of an execution lists what each of them has done. The
motions of the report and the calls that have been recorded are those of the
trace, in their order.
-/

namespace TangibleBlocks

/-- The commands of a program that have been executed according to a report. -/
def Program.executed (program : Program) (report : Report) : List Command :=
  program.unroll.take report.commandsExecuted

def Command.picksUp (c : Command) : Bool :=
  decide (c.action = .pickUp)

/-- What a command has done: the motions of turning and of acting, the cells on which something was
to be collected, and the pauses. The robot is the one that acts, when it has turned. -/
structure Deed where
  command : Command
  robot : Robot
  turned : List Motion
  moved : List Motion
  visited : List Cell
  waited : List Duration

def Deed.motions (d : Deed) : List Motion :=
  d.turned ++ d.moved

namespace Motion

/-- A walk that has come to an obstacle. -/
def isBlockedWalk (m : Motion) : Bool :=
  match m.kind, m.outcome with
  | .walk, .partly _ => true
  | _, _ => false

/-- A jump that has been given up. -/
def isVoidedJump (m : Motion) : Bool :=
  decide (m.kind = .jump ∧ m.outcome = .voided)

end Motion

namespace Report

/-- The counts are right for the motions that are listed. -/
structure Tallied (a : Report) : Prop where
  blockedWalks : a.blockedWalks = a.motions.countP Motion.isBlockedWalk
  voidedJumps : a.voidedJumps = a.motions.countP Motion.isVoidedJump
  rejectedMotions : a.rejectedMotions = a.motions.countP Motion.isRejected

theorem tallied_of_motions_nil {a : Report} (hm : a.motions = []) (hb : a.blockedWalks = 0)
    (hv : a.voidedJumps = 0) (hr : a.rejectedMotions = 0) : a.Tallied := by
  constructor <;> simp [*]

theorem tallied_ofMotion (m : Motion) : (ofMotion m).Tallied := by
  obtain ⟨k, c, d, o, t⟩ := m
  constructor <;> cases k <;> cases o <;> rfl

theorem Tallied.append {a b : Report} (ha : a.Tallied) (hb : b.Tallied) : (a ++ b).Tallied := by
  constructor <;>
    simp only [append_def, Report.append, List.countP_append, ha.blockedWalks, ha.voidedJumps,
      ha.rejectedMotions, hb.blockedWalks, hb.voidedJumps, hb.rejectedMotions]

end Report

/-- The record with another one in front of it. -/
def Recording.behind {σ : Type} (t s : Recording σ) : Recording σ :=
  ⟨t.state, s.collected ++ t.collected, s.waits ++ t.waits⟩

namespace Activity

variable {σ : Type}

/-- What is true of a robot in its surroundings stays true. -/
def Keeps (I : Robot → σ → Prop) (a : Activity σ) : Prop :=
  ∀ r s, I r s → I (a r s).robot (a r s).state

theorem Keeps.andThen {I : Robot → σ → Prop} {a b : Activity σ} (ha : Keeps I a)
    (hb : Keeps I b) : Keeps I (a.andThen b) :=
  fun r s h => hb _ _ (ha r s h)

/-- What holds of doing nothing, cancelled or not, and is kept when reports are put together. It is
said of a report with the robots before and after. -/
theorem congruence_report {P : Robot → Report → Robot → Prop} {h : Host σ}
    (hempty : ∀ r, P r .empty r) (hcancelling : ∀ r, P r .ofCancelling r)
    (happend : ∀ {r r' r'' a b}, P r a r' → P r' b r'' → P r (a ++ b) r'') :
    Congruence h h fun a _ => ∀ r s, P r (a r s).report (a r s).robot where
  skip := fun r _ => hempty r
  andThen := fun ha hb r s => happend (ha r s) (hb _ _)
  unlessCancelled := by
    intro a _ ha r s
    unfold unlessCancelled
    split
    · exact hcancelling r
    · exact ha r s

end Activity

namespace Host

open Activity (Keeps)

variable {σ : Type} (h : Host σ) (p : Pace)

/-! ### The commands that have been executed -/

theorem commandsExecuted_run (program : Program) (r : Robot) (s : σ) :
    (h.run p program r s).report.commandsExecuted = (h.lastCut p program r s).done.length := by
  rw [run_eq_executeAll_lastCut]
  exact (h.report_executeAll p _ r s).1

theorem executed_run (program : Program) (r : Robot) (s : σ) :
    program.executed (h.run p program r s).report = (h.lastCut p program r s).done := by
  obtain ⟨before, after, hc, -⟩ := h.exists_lastCut p program r s
  have hprefix := Cut.done_prefix_unroll
    (show h.lastCut p program r s ∈ program.cuts by rw [hc]; simp)
  rw [Program.executed, commandsExecuted_run]
  exact (List.prefix_iff_eq_take.mp hprefix).symm

/-! A run is the execution of the commands that have been executed. -/

theorem robot_run (program : Program) (r : Robot) (s : σ) :
    (h.run p program r s).robot =
      (h.executeAll p (program.executed (h.run p program r s).report) r s).robot := by
  rw [executed_run, run_eq_executeAll_lastCut]

theorem state_run (program : Program) (r : Robot) (s : σ) :
    (h.run p program r s).state =
      (h.executeAll p (program.executed (h.run p program r s).report) r s).state := by
  rw [executed_run, run_eq_executeAll_lastCut]

theorem motions_run (program : Program) (r : Robot) (s : σ) :
    (h.run p program r s).report.motions =
      (h.executeAll p (program.executed (h.run p program r s).report) r s).report.motions := by
  rw [executed_run, run_eq_executeAll_lastCut]

theorem finalState_run (program : Program) (r : Robot) (s : σ) :
    (h.run p program r s).report.finalState = some (h.run p program r s).robot := by
  rw [run_eq_executeAll_lastCut]

theorem length_executed (program : Program) (r : Robot) (s : σ) :
    (program.executed (h.run p program r s).report).length =
      (h.run p program r s).report.commandsExecuted := by
  rw [executed_run, commandsExecuted_run]

/-- A run that has not been cancelled has executed all commands. -/
theorem executed_eq_unroll {program : Program} {r : Robot} {s : σ}
    (hc : (h.run p program r s).report.cancelled = false) :
    program.executed (h.run p program r s).report = program.unroll := by
  obtain ⟨before, after, hcuts, -, hafter⟩ := h.exists_lastCut p program r s
  rw [executed_run]
  cases after with
  | nil => exact Cut.done_eq_unroll hcuts
  | cons e after =>
      -- With the switch thrown, nothing can be left to be started.
      have hthrown := hafter (List.cons_ne_nil e after)
      rw [run_eq_executeAll_lastCut] at hc
      have hrest : (h.lastCut p program r s).rest = [] := by simpa [hthrown] using hc
      have hunroll := Cut.unroll_of_mem_cuts
        (show h.lastCut p program r s ∈ program.cuts by rw [hcuts]; simp)
      rwa [hrest, Program.unroll_nil, List.append_nil] at hunroll

theorem run_of_uncancelled {program : Program} {r : Robot} {s : σ}
    (hc : (h.run p program r s).report.cancelled = false) :
    let d := h.executeAll p program.unroll r s
    h.run p program r s = ⟨d.robot, d.state, { d.report with finalState := some d.robot }⟩ := by
  intro d
  have hdone : (h.lastCut p program r s).done = program.unroll := by
    rw [← executed_run, h.executed_eq_unroll p hc]
  have hrun := h.run_eq_executeAll_lastCut p program r s
  simp only [hdone] at hrun
  rw [hrun] at hc ⊢
  have hreport : d.report.cancelled = false := (h.report_executeAll p program.unroll r s).2.1
  simp only at hc
  rw [hc, ← hreport]

/-! ### What stays true -/

variable {h p}

theorem keeps_executeAll {I : Robot → σ → Prop} (hI : ∀ c, Keeps I (h.execute p c))
    (cs : List Command) : Keeps I (h.executeAll p cs) := by
  induction cs with
  | nil => exact fun _ _ hrs => hrs
  | cons c cs ih => exact (hI c).andThen ih

/-! ### The counts -/

variable (h p)

theorem tallied_turn (d : Option Heading) (r : Robot) (s : σ) :
    (h.turn p d r s).report.Tallied := by
  cases d with
  | none => exact Report.tallied_of_motions_nil rfl rfl rfl rfl
  | some d => exact Report.tallied_ofMotion _

theorem tallied_act (c : Command) (r : Robot) (s : σ) : (h.act p c r s).report.Tallied := by
  unfold act
  cases c.action with
  | walk => exact Report.tallied_ofMotion _
  | jump => exact Report.tallied_ofMotion _
  | pickUp => exact Report.tallied_of_motions_nil rfl rfl rfl rfl
  | stay => exact Report.tallied_of_motions_nil rfl rfl rfl rfl

theorem tallied_execute (c : Command) (r : Robot) (s : σ) :
    (h.execute p c r s).report.Tallied :=
  (h.tallied_turn p _ r s).append
    ((h.tallied_act p c _ _).append (Report.tallied_of_motions_nil rfl rfl rfl rfl))

theorem tallied_run (program : Program) (r : Robot) (s : σ) :
    (h.run p program r s).report.Tallied :=
  (Activity.congruence_report (P := fun _ a _ => a.Tallied)
    (fun _ => Report.tallied_of_motions_nil rfl rfl rfl rfl)
    (fun _ => Report.tallied_of_motions_nil rfl rfl rfl rfl) Report.Tallied.append).run
    (q := p) (h.tallied_execute p) (fun _ _ => Report.tallied_of_motions_nil rfl rfl rfl rfl)
    program r s

/-! ### What motions have in common -/

variable {h p} in
/-- What is true of the motions of a robot is true of those that turning reports. -/
theorem forall_mem_motions_turn {P : Motion → Prop} {r : Robot}
    (hface : ∀ d, P (r.face p.timing d).2) (d : Option Heading) (s : σ) :
    ∀ m ∈ (h.turn p d r s).report.motions, P m := by
  cases d with
  | none => exact fun m hm => absurd hm List.not_mem_nil
  | some d => exact List.forall_mem_singleton.mpr (hface d)

variable {h p} in
theorem forall_mem_motions_act {P : Motion → Prop} {r : Robot} {s : σ}
    (hwalk : ∀ n, P (r.walk h.toWorld p.timing n s).motion)
    (hjump : ∀ n, P (r.jump h.toWorld p.timing n s).motion) (c : Command) :
    ∀ m ∈ (h.act p c r s).report.motions, P m := by
  unfold act
  cases c.action with
  | walk => exact List.forall_mem_singleton.mpr (hwalk c.count)
  | jump => exact List.forall_mem_singleton.mpr (hjump c.count)
  | pickUp => exact fun m hm => absurd hm List.not_mem_nil
  | stay => exact fun m hm => absurd hm List.not_mem_nil

/-! ### The trace -/

/-- What a command does, kept in a record of its own. -/
def deed (c : Command) (r : Robot) (s : σ) : Deed :=
  let turned := h.recorded.turn p c.direction r ⟨s, #[], #[]⟩
  let acted := h.recorded.act p c turned.robot turned.state
  let paused := h.recorded.pause p acted.robot acted.state
  ⟨c, turned.robot, turned.report.motions, acted.report.motions,
    paused.state.collected.toList, paused.state.waits.toList⟩

/-- What each of some commands does, one after the other. -/
def deeds : List Command → Robot → σ → List Deed
  | [], _, _ => []
  | c :: cs, r, s =>
    let done := h.execute p c r s
    h.deed p c r s :: deeds cs done.robot done.state

theorem map_command_deeds (cs : List Command) (r : Robot) (s : σ) :
    (h.deeds p cs r s).map Deed.command = cs := by
  induction cs generalizing r s with
  | nil => rfl
  | cons c cs ih => rw [deeds, List.map_cons, ih]; rfl

variable {h p} in
/-- What is true of every command that is executed while something stays true. -/
theorem forall_mem_deeds {I : Robot → σ → Prop} {P : Deed → Prop}
    (hI : ∀ c, Keeps I (h.execute p c)) (hP : ∀ c r s, I r s → P (h.deed p c r s))
    (cs : List Command) {r : Robot} {s : σ} (hrs : I r s) : ∀ d ∈ h.deeds p cs r s, P d := by
  induction cs generalizing r s with
  | nil => simp [deeds]
  | cons c cs ih => exact List.forall_mem_cons.mpr ⟨hP c r s hrs, ih (hI c r s hrs)⟩

/-- What has been recorded before makes no difference. -/
theorem simulation_behind (s : Recording σ) :
    Simulation h.recorded h.recorded fun t t' => t' = t.behind s where
  passable := fun t t' ht => by rw [ht]; rfl
  cancelled := fun t t' ht => by rw [ht]; rfl
  collect := fun t t' c ht => by rw [ht]; simp [recorded, Recording.behind]
  wait := fun t t' d ht => by rw [ht]; simp [recorded, Recording.behind]

theorem execute_recorded (c : Command) (r : Robot) (s : Recording σ) :
    let done := h.recorded.execute p c r s
    let d := h.deed p c r s.state
    done.unrecorded.robot = (h.execute p c r s.state).robot ∧
      done.unrecorded.state = (h.execute p c r s.state).state ∧
      done.report.motions = d.motions ∧
      done.state.collected.toList = s.collected.toList ++ d.visited ∧
      done.state.waits.toList = s.waits.toList ++ d.waited := by
  intro done d
  obtain ⟨hrobot, hstate, -⟩ := h.simulation_recorded.execute (p := p) c r s _ rfl
  -- The same command with a new record, which is what the deed is made of.
  let anew := h.recorded.execute p c r ⟨s.state, #[], #[]⟩
  obtain ⟨-, hbehind, hreport⟩ := (h.simulation_behind s).execute (p := p) c r ⟨s.state, #[], #[]⟩ s
    (by simp [Recording.behind])
  have hmotions : anew.report.motions = d.motions := by
    simp [anew, d, deed, execute, Activity.andThen, pause, Report.append_def, Report.append,
      Report.ofCommand, Report.empty, Deed.motions]
  refine ⟨hrobot, hstate, ?_, ?_, ?_⟩
  · rw [← hmotions]
    exact (congrArg Report.motions hreport).symm
  · simp only [done, hbehind, Recording.behind, Array.toList_append]
    rfl
  · simp only [done, hbehind, Recording.behind, Array.toList_append]
    rfl

theorem executeAll_recorded (cs : List Command) (r : Robot) (s : Recording σ) :
    let done := h.recorded.executeAll p cs r s
    let ds := h.deeds p cs r s.state
    done.report.motions = ds.flatMap Deed.motions ∧
      done.state.collected.toList = s.collected.toList ++ ds.flatMap Deed.visited ∧
      done.state.waits.toList = s.waits.toList ++ ds.flatMap Deed.waited := by
  induction cs generalizing r s with
  | nil => exact ⟨rfl, by simp [deeds, Activity.skip], by simp [deeds, Activity.skip]⟩
  | cons c cs ih =>
      let first := h.recorded.execute p c r s
      obtain ⟨hrobot, hstate, hmotions, hcollected, hwaits⟩ := h.execute_recorded p c r s
      obtain ⟨hmotions', hcollected', hwaits'⟩ := ih first.robot first.state
      have hds : h.deeds p (c :: cs) r s.state =
          h.deed p c r s.state :: h.deeds p cs first.robot first.state.state := by
        rw [deeds, ← hrobot, ← hstate]
        rfl
      intro done ds
      have hreport : done.report =
          first.report ++ (h.recorded.executeAll p cs first.robot first.state).report := rfl
      have hdone : done.state = (h.recorded.executeAll p cs first.robot first.state).state := rfl
      simp only [ds, hds, List.flatMap_cons]
      refine ⟨?_, ?_, ?_⟩
      · rw [hreport, Report.append_def, Report.append, hmotions', hmotions]
      · rw [hdone, hcollected', hcollected, List.append_assoc]
      · rw [hdone, hwaits', hwaits, List.append_assoc]

/-- The motions of a report and the recorded calls are those of the trace. -/
theorem run_recorded (program : Program) (r : Robot) (s : Recording σ) :
    let run := h.recorded.run p program r s
    let ds := h.deeds p (program.executed run.report) r s.state
    run.report.motions = ds.flatMap Deed.motions ∧
      run.state.collected.toList = s.collected.toList ++ ds.flatMap Deed.visited ∧
      run.state.waits.toList = s.waits.toList ++ ds.flatMap Deed.waited := by
  intro run ds
  obtain ⟨hmotions, hcollected, hwaits⟩ :=
    h.executeAll_recorded p (program.executed run.report) r s
  have hstate := h.recorded.state_run p program r s
  refine ⟨?_, ?_, ?_⟩
  · rw [← hmotions]
    exact h.recorded.motions_run p program r s
  · rw [← hcollected, ← hstate]
  · rw [← hwaits, ← hstate]

end Host

end TangibleBlocks
