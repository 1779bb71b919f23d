import TangibleBlocks.Proofs.Execution.Simulation

/-!
Programs in a row. Executing one list of commands behind another is executing
the two lists one after the other, and the same is true of nodes and of whole
programs, whenever the switch is thrown: once it is, the nodes that follow only
report that they have been left out, which has been reported already.
-/

namespace TangibleBlocks

namespace Report

/-- The report of coming to nodes with the switch thrown. -/
def ofLeaving (ns : List Node) : Report :=
  { empty with cancelled := !ns.isEmpty }

@[simp] theorem ofLeaving_nil : ofLeaving [] = empty := rfl

@[simp] theorem ofLeaving_cons (n : Node) (ns : List Node) :
    ofLeaving (n :: ns) = ofCancelling := rfl

/-- Leaving out more nodes than those that have been left out already adds nothing. -/
theorem ofCancelling_append_ofLeaving (ns : List Node) :
    ofCancelling ++ ofLeaving ns = ofCancelling := by
  cases ns <;> rfl

/-- Of two final states only the last one counts. -/
theorem ofEnd_append_ofEnd (r r' : Robot) (a : Report) :
    ofEnd r ++ (a ++ ofEnd r') = a ++ ofEnd r' := by
  simp [append_def, append, ofEnd, empty]

end Report

namespace Host

variable {σ : Type} (h : Host σ) (p : Pace)

@[simp] theorem executeAll_nil : h.executeAll p [] = .skip := rfl

theorem executeAll_singleton (c : Command) : h.executeAll p [c] = h.execute p c :=
  Activity.andThen_skip _

theorem executeAll_append (as bs : List Command) :
    h.executeAll p (as ++ bs) = (h.executeAll p as).andThen (h.executeAll p bs) := by
  simp only [executeAll, List.map_append, Activity.sequence_append]

/-! A program one node at a time. -/

@[simp] theorem nodes_nil : h.nodes p [] = .skip := rfl

@[simp] theorem rounds_zero (body : List Command) : h.rounds p body 0 = .skip := rfl

variable {h}

theorem nodes_cons_of_going {s : σ} (hs : h.cancelled s = false) (n : Node) (ns : List Node)
    (r : Robot) : h.nodes p (n :: ns) r s = (h.node p n).andThen (h.nodes p ns) r s := by
  simp [nodes, Activity.unlessCancelled, hs]

theorem rounds_succ_of_going {s : σ} (hs : h.cancelled s = false) (body : List Command) (n : Nat)
    (r : Robot) :
    h.rounds p body (n + 1) r s = (h.executeAll p body).andThen (h.rounds p body n) r s := by
  simp [rounds, Activity.unlessCancelled, hs]

theorem nodes_of_cancelled {s : σ} (hs : h.cancelled s = true) (ns : List Node) (r : Robot) :
    h.nodes p ns r s = ⟨r, s, .ofLeaving ns⟩ := by
  cases ns with
  | nil => rfl
  | cons n ns => simp [nodes, Activity.unlessCancelled, hs]

theorem rounds_succ_of_cancelled {s : σ} (hs : h.cancelled s = true) (body : List Command)
    (n : Nat) (r : Robot) : h.rounds p body (n + 1) r s = ⟨r, s, .ofCancelling⟩ := by
  simp [rounds, Activity.unlessCancelled, hs]

variable (h)

theorem nodes_append (ms ns : List Node) :
    h.nodes p (ms ++ ns) = (h.nodes p ms).andThen (h.nodes p ns) := by
  induction ms with
  | nil => exact (Activity.skip_andThen _).symm
  | cons m ms ih =>
      funext r s
      cases hs : h.cancelled s with
      | true =>
          rw [List.cons_append, nodes_of_cancelled p hs, Activity.andThen, nodes_of_cancelled p hs,
            nodes_of_cancelled p hs, Report.ofLeaving_cons, Report.ofLeaving_cons,
            Report.ofCancelling_append_ofLeaving]
      | false =>
          calc h.nodes p (m :: (ms ++ ns)) r s
              = (h.node p m).andThen ((h.nodes p ms).andThen (h.nodes p ns)) r s := by
                rw [nodes_cons_of_going p hs, ih]
            _ = ((h.node p m).andThen (h.nodes p ms)).andThen (h.nodes p ns) r s := by
                rw [Activity.andThen_assoc]
            _ = (h.nodes p (m :: ms)).andThen (h.nodes p ns) r s := by
                simp only [Activity.andThen, nodes_cons_of_going p hs]

theorem note_ofEnd_andThen (a : Activity σ) :
    (Activity.note .ofEnd).andThen (a.andThen (.note .ofEnd)) = a.andThen (.note .ofEnd) := by
  funext r s
  simp [Activity.andThen, Activity.note, Report.ofEnd_append_ofEnd]

theorem run_mk_append (ms ns : List Node) :
    h.run p ⟨ms ++ ns⟩ = (h.run p ⟨ms⟩).andThen (h.run p ⟨ns⟩) := by
  simp only [run, nodes_append, Activity.andThen_assoc, note_ofEnd_andThen]

/-- Executing the nodes of one program behind those of another does the same, and makes the same
calls, as executing the two programs one after the other, and its report is put together from the
reports of the two. -/
theorem run_append (P Q : Program) (r : Robot) (s : Recording σ) :
    let first := h.recorded.run p P r s
    let second := h.recorded.run p Q first.robot first.state
    let both := h.recorded.run p ⟨P.nodes ++ Q.nodes⟩ r s
    first.unrecorded = h.run p P r s.state ∧
      second.unrecorded = h.run p Q first.robot first.state.state ∧
      both.unrecorded = h.run p ⟨P.nodes ++ Q.nodes⟩ r s.state ∧
      both.robot = second.robot ∧
      both.state.state = second.state.state ∧
      both.state.collected = second.state.collected ∧
      both.state.waits = second.state.waits ∧
      both.report.commandsExecuted =
        first.report.commandsExecuted + second.report.commandsExecuted ∧
      both.report.blockedWalks = first.report.blockedWalks + second.report.blockedWalks ∧
      both.report.voidedJumps = first.report.voidedJumps + second.report.voidedJumps ∧
      both.report.rejectedMotions =
        first.report.rejectedMotions + second.report.rejectedMotions ∧
      both.report.pickUps = first.report.pickUps + second.report.pickUps ∧
      both.report.motions = first.report.motions ++ second.report.motions ∧
      both.report.cancelled = (first.report.cancelled || second.report.cancelled) ∧
      both.report.finalState = second.report.finalState := by
  intro first second both
  have hboth : both = { second with report := first.report ++ second.report } :=
    congrFun (congrFun (run_mk_append h.recorded p P.nodes Q.nodes) r) s
  refine ⟨h.unrecorded_run p P r s, h.unrecorded_run p Q _ _, h.unrecorded_run p _ r s, ?_⟩
  rw [hboth]
  exact ⟨rfl, rfl, rfl, rfl, rfl, rfl, rfl, rfl, rfl, rfl, rfl, rfl⟩

end Host

end TangibleBlocks
