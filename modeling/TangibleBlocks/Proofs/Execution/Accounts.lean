import Mathlib.Data.List.Basic
import TangibleBlocks.Grid.Level
import TangibleBlocks.Proofs.Execution.Trace
import TangibleBlocks.Proofs.Robot.Moving

/-!
The accounts of a run. Every command makes the motions that it stands for, a
turn and then that of its action, and every motion that is not refused is waited
for, before the pauses of the command itself. So the counts of a report, its
motions and the pauses during the run all follow from the commands that have
been executed and from the outcomes of their motions.
-/

namespace TangibleBlocks

/-- The motion that an action stands for, if there is one. -/
def Action.motionKinds : Action → List Motion.Kind
  | .walk => [.walk]
  | .jump => [.jump]
  | .pickUp => []
  | .stay => []

namespace Command

/-- The motions that a command stands for. -/
def motionKinds (c : Command) : List Motion.Kind :=
  (if c.direction.isSome then [.turn] else []) ++ c.action.motionKinds

def turns (c : Command) : Bool :=
  c.direction.isSome

def moves (c : Command) : Bool :=
  decide (c.action = .walk ∨ c.action = .jump)

theorem length_motionKinds (c : Command) :
    c.motionKinds.length = (if c.turns then 1 else 0) + (if c.moves then 1 else 0) := by
  obtain ⟨a, d, n⟩ := c
  cases a <;> cases d <;> rfl

theorem length_flatMap_motionKinds (cs : List Command) :
    (cs.flatMap motionKinds).length = cs.countP turns + cs.countP moves := by
  induction cs with
  | nil => rfl
  | cons c cs ih =>
      rw [List.flatMap_cons, List.length_append, ih, length_motionKinds, List.countP_cons,
        List.countP_cons]
      omega

end Command

/-- The pauses for motions to end. There is none for a motion that has been refused. -/
def Motion.pauses (ms : List Motion) : List Duration :=
  (ms.filter fun m => !m.isRejected).map Motion.duration

theorem Motion.pauses_append (ms ns : List Motion) :
    pauses (ms ++ ns) = pauses ms ++ pauses ns := by
  simp [pauses]

theorem Motion.length_pauses (ms : List Motion) :
    (pauses ms).length + ms.countP Motion.isRejected = ms.length := by
  rw [pauses, List.length_map, ← List.countP_eq_length_filter]
  have hsplit := List.length_eq_countP_add_countP Motion.isRejected (l := ms)
  simp only [decide_not, Bool.decide_eq_true] at hsplit
  omega

namespace Deed

/-- The pauses of a command: for the motions, after picking up, and at the end. -/
def pauses (p : Pace) (d : Deed) : List Duration :=
  Motion.pauses d.motions ++ (if d.command.picksUp then [p.delays.pickUp] else []) ++
    [p.delays.command]

theorem length_flatMap_pauses (p : Pace) (ds : List Deed) :
    (ds.flatMap (pauses p)).length + (ds.flatMap motions).countP Motion.isRejected =
      ds.length + (ds.map command).countP Command.picksUp + (ds.flatMap motions).length := by
  induction ds with
  | nil => rfl
  | cons d ds ih =>
      have hmotions := Motion.length_pauses d.motions
      -- One more pause than motions are waited for, or two if something is picked up.
      have hd : (d.pauses p).length =
          (Motion.pauses d.motions).length + (if d.command.picksUp then 1 else 0) + 1 := by
        rw [pauses, List.length_append, List.length_append]
        split <;> rfl
      simp only [List.flatMap_cons, List.map_cons, List.length_append, List.length_cons,
        List.countP_append, List.countP_cons, hd]
      omega

end Deed

namespace Host

variable {σ : Type} (h : Host σ) (p : Pace)

/-! ### Pick-ups -/

theorem pickUps_turn (d : Option Heading) (r : Robot) (s : σ) :
    (h.turn p d r s).report.pickUps = 0 := by
  cases d <;> rfl

theorem pickUps_act (c : Command) (r : Robot) (s : σ) :
    (h.act p c r s).report.pickUps = if c.picksUp then 1 else 0 := by
  unfold act Command.picksUp
  cases c.action <;> rfl

theorem pickUps_execute (c : Command) (r : Robot) (s : σ) :
    (h.execute p c r s).report.pickUps = if c.picksUp then 1 else 0 := by
  simp only [execute, Activity.andThen, pause, Report.append_def, Report.append, Report.ofCommand,
    Report.empty, pickUps_turn, pickUps_act]
  omega

theorem pickUps_executeAll (cs : List Command) (r : Robot) (s : σ) :
    (h.executeAll p cs r s).report.pickUps = cs.countP Command.picksUp := by
  induction cs generalizing r s with
  | nil => rfl
  | cons c cs ih =>
      let first := h.execute p c r s
      have hreport : (h.executeAll p (c :: cs) r s).report =
          first.report ++ (h.executeAll p cs first.robot first.state).report := rfl
      rw [hreport, Report.append_def, Report.append, List.countP_cons]
      simp only [ih, first, pickUps_execute]
      omega

theorem pickUps_run (program : Program) (r : Robot) (s : σ) :
    (h.run p program r s).report.pickUps =
      (program.executed (h.run p program r s).report).countP Command.picksUp := by
  rw [executed_run, run_eq_executeAll_lastCut]
  exact h.pickUps_executeAll p _ r s

/-! ### Motions -/

theorem map_kind_turn (d : Option Heading) (r : Robot) (s : σ) :
    (h.turn p d r s).report.motions.map Motion.kind = if d.isSome then [.turn] else [] := by
  cases d with
  | none => rfl
  | some d => exact congrArg (fun k => [k]) (Robot.kind_face p.timing r d)

theorem map_kind_act (c : Command) (r : Robot) (s : σ) :
    (h.act p c r s).report.motions.map Motion.kind = c.action.motionKinds := by
  unfold act
  cases c.action with
  | walk => exact congrArg (fun k => [k]) (Robot.kind_walk h.toWorld p.timing r _ s)
  | jump => exact congrArg (fun k => [k]) (Robot.kind_jump h.toWorld p.timing r _ s)
  | pickUp => rfl
  | stay => rfl

theorem map_kind_deed (c : Command) (r : Robot) (s : σ) :
    (h.deed p c r s).motions.map Motion.kind = c.motionKinds := by
  simp only [deed, Deed.motions, List.map_append, map_kind_turn, map_kind_act, Command.motionKinds]

theorem duration_of_mem_deed (c : Command) (r : Robot) (s : σ) :
    ∀ m ∈ (h.deed p c r s).motions, m.outcome = .voided → m.duration = .zero :=
  List.forall_mem_append.mpr
    ⟨forall_mem_motions_turn (Robot.duration_face_of_voided p.timing r) c.direction _,
      forall_mem_motions_act (fun n => Robot.duration_walk_of_voided _ p.timing _ n _)
        (fun n => Robot.duration_jump_of_voided _ p.timing _ n _) c⟩

/-! ### Pauses -/

theorem waits_settle (m : Motion) (r : Robot) (t : Recording σ) :
    (h.recorded.settle m r t).state.waits.toList = t.waits.toList ++ Motion.pauses [m] := by
  cases hm : m.isRejected <;> simp [settle, recorded, Motion.pauses, hm]

theorem waits_turn (d : Option Heading) (r : Robot) (t : Recording σ) :
    let done := h.recorded.turn p d r t
    done.state.waits.toList = t.waits.toList ++ Motion.pauses done.report.motions := by
  cases d with
  | none => exact (List.append_nil _).symm
  | some d => exact h.waits_settle _ _ t

theorem waits_foldl_collect (cells : List Cell) (t : Recording σ) :
    (cells.foldl h.recorded.collect t).waits = t.waits := by
  induction cells generalizing t with
  | nil => rfl
  | cons c cells ih => exact ih _

/-- Nobody waits on the way; that is done when a motion is settled. -/
theorem waits_settle_foldl {t t' : Recording σ} {cells : List Cell}
    (ht' : t' = cells.foldl h.recorded.collect t) (m : Motion) (r : Robot) :
    (h.recorded.settle m r t').state.waits.toList = t.waits.toList ++ Motion.pauses [m] := by
  rw [waits_settle, ht', waits_foldl_collect]

theorem waits_walk (n : Nat) (r : Robot) (t : Recording σ) :
    let done := h.recorded.walk p n r t
    done.state.waits.toList = t.waits.toList ++ Motion.pauses done.report.motions := by
  obtain ⟨cells, hworld, -⟩ := Robot.exists_cells_walk h.recorded.toWorld p.timing r n t
  exact h.waits_settle_foldl hworld _ _

theorem waits_jump (n : Nat) (r : Robot) (t : Recording σ) :
    let done := h.recorded.jump p n r t
    done.state.waits.toList = t.waits.toList ++ Motion.pauses done.report.motions := by
  obtain ⟨cells, hworld, -⟩ := Robot.exists_cells_jump h.recorded.toWorld p.timing r n t
  exact h.waits_settle_foldl hworld _ _

theorem waits_act (c : Command) (r : Robot) (t : Recording σ) :
    let done := h.recorded.act p c r t
    done.state.waits.toList = t.waits.toList ++ Motion.pauses done.report.motions ++
      if c.picksUp then [p.delays.pickUp] else [] := by
  obtain ⟨a, d, n⟩ := c
  cases a with
  | walk => simpa [act, Command.picksUp] using h.waits_walk p n r t
  | jump => simpa [act, Command.picksUp] using h.waits_jump p n r t
  | pickUp =>
      simp [act, pickUp, recorded, Report.ofPickUp, Report.empty, Motion.pauses, Command.picksUp]
  | stay => simp [act, Activity.skip, Report.empty, Motion.pauses, Command.picksUp]

theorem waited_deed (c : Command) (r : Robot) (s : σ) :
    (h.deed p c r s).waited = (h.deed p c r s).pauses p := by
  let turned := h.recorded.turn p c.direction r ⟨s, #[], #[]⟩
  let acted := h.recorded.act p c turned.robot turned.state
  have hturned : turned.state.waits.toList = Motion.pauses turned.report.motions :=
    h.waits_turn p c.direction r ⟨s, #[], #[]⟩
  have hacted : acted.state.waits.toList =
      turned.state.waits.toList ++ Motion.pauses acted.report.motions ++
        if c.picksUp then [p.delays.pickUp] else [] :=
    h.waits_act p c turned.robot turned.state
  calc (h.deed p c r s).waited
      = acted.state.waits.toList ++ [p.delays.command] := Array.toList_push
    _ = (h.deed p c r s).pauses p := by
        rw [hacted, hturned, ← Motion.pauses_append]
        rfl

/-- The counts of a report are those of its motions and of the commands that have been executed.
Each of these commands makes the motions that it stands for, refused or not. It is followed by
pauses for the motions that are not refused, one for picking something up, and one at the end; so
there are as many pauses as there are commands, pick-ups and motions, less the refused ones. -/
theorem run_accounts (program : Program) (r : Robot) (s : Recording σ) :
    let run := h.recorded.run p program r s
    let executed := program.executed run.report
    let ds := h.deeds p executed r s.state
    run.unrecorded = h.run p program r s.state ∧
      executed.length = run.report.commandsExecuted ∧
      ds.map Deed.command = executed ∧
      run.report.motions = ds.flatMap Deed.motions ∧
      run.report.blockedWalks = run.report.motions.countP Motion.isBlockedWalk ∧
      run.report.voidedJumps = run.report.motions.countP Motion.isVoidedJump ∧
      run.report.rejectedMotions = run.report.motions.countP Motion.isRejected ∧
      run.report.pickUps = executed.countP Command.picksUp ∧
      (∀ d ∈ ds, d.motions.map Motion.kind = d.command.motionKinds) ∧
      run.report.motions.map Motion.kind = executed.flatMap Command.motionKinds ∧
      run.report.motions.length = executed.countP Command.turns + executed.countP Command.moves ∧
      run.state.waits.toList = s.waits.toList ++ ds.flatMap (Deed.pauses p) ∧
      (∀ m ∈ run.report.motions, m.outcome = .voided → m.duration = .zero) ∧
      run.report.rejectedMotions ≤ run.report.motions.length ∧
      run.state.waits.size = s.waits.size + (run.report.commandsExecuted + run.report.pickUps +
        run.report.motions.length - run.report.rejectedMotions) := by
  intro run executed ds
  have hmotions : run.report.motions = ds.flatMap Deed.motions := (h.run_recorded p program r s).1
  have hwaits : run.state.waits.toList = s.waits.toList ++ ds.flatMap Deed.waited :=
    (h.run_recorded p program r s).2.2
  have hcommands : ds.map Deed.command = executed := h.map_command_deeds p executed r s.state
  have hlength : executed.length = run.report.commandsExecuted :=
    h.recorded.length_executed p program r s
  have htallied : run.report.Tallied := h.recorded.tallied_run p program r s
  have hpickUps : run.report.pickUps = executed.countP Command.picksUp :=
    h.recorded.pickUps_run p program r s
  have hdeeds : ∀ d ∈ ds, d.waited = d.pauses p ∧ d.motions.map Motion.kind = d.command.motionKinds ∧
      ∀ m ∈ d.motions, m.outcome = .voided → m.duration = .zero :=
    forall_mem_deeds (I := fun _ _ => True) (fun _ _ _ _ => trivial)
      (fun c r' s' _ => ⟨h.waited_deed p c r' s', h.map_kind_deed p c r' s',
        h.duration_of_mem_deed p c r' s'⟩)
      executed trivial
  have hpauses : run.state.waits.toList = s.waits.toList ++ ds.flatMap (Deed.pauses p) := by
    rw [hwaits, List.flatMap_congr fun d hd => (hdeeds d hd).1]
  have hkinds : run.report.motions.map Motion.kind = executed.flatMap Command.motionKinds := by
    rw [hmotions, List.map_flatMap, List.flatMap_congr fun d hd => (hdeeds d hd).2.1, ← hcommands,
      List.flatMap_map]
  refine ⟨h.unrecorded_run p program r s, hlength, hcommands, hmotions, htallied.blockedWalks,
    htallied.voidedJumps, htallied.rejectedMotions, hpickUps, fun d hd => (hdeeds d hd).2.1, hkinds,
    ?_, hpauses, ?_, htallied.rejectedMotions ▸ List.countP_le_length, ?_⟩
  · rw [← List.length_map Motion.kind, hkinds, Command.length_flatMap_motionKinds]
  · intro m hm
    rw [hmotions] at hm
    obtain ⟨d, hd, hmd⟩ := List.mem_flatMap.mp hm
    exact (hdeeds d hd).2.2 m hmd
  · -- The pauses of all commands, counted command by command.
    have htotal := Deed.length_flatMap_pauses p ds
    rw [hcommands, ← hmotions] at htotal
    have hds : ds.length = run.report.commandsExecuted := by
      rw [← hlength, ← hcommands, List.length_map]
    have hrejected := htallied.rejectedMotions
    rw [← Array.length_toList, hpauses, List.length_append, Array.length_toList]
    omega

/-- A turn and two steps, then a jump that is given up, and then a pick-up. -/
example :
    let h := Host.ofWorld Level.world
    let level := Level.build 3 1 [] [] none
    let program : Program :=
      ⟨[.command ⟨.walk, some .right, 2⟩, .command (.once .jump), .command (.once .pickUp)]⟩
    let run := h.recorded.run .usual program (.idle ⟨0, 0⟩ .up) ⟨level, #[], #[]⟩
    run.state.waits.toList.map Duration.milliseconds = [250, 1000, 150, 0, 150, 300, 150] ∧
      run.report.voidedJumps = 1 := by decide

end Host

end TangibleBlocks
