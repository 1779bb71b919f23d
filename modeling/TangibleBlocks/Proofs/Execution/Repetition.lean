import TangibleBlocks.Proofs.Execution.Simulation

/-!
Several runs in a row. The robot and the surroundings of a run are those that the
run before it has left behind.
-/

namespace TangibleBlocks.Host

variable {σ : Type} {h : Host σ} {p : Pace}

/-- What the runs of some programs leave behind, run by run. -/
def runs (h : Host σ) (p : Pace) : List Program → Robot → σ → List (Progress σ)
  | [], _, _ => []
  | program :: rest, r, s =>
    let done := h.run p program r s
    done :: runs h p rest done.robot done.state

/-- A record of the calls changes nothing about several runs. -/
theorem unrecorded_runs (h : Host σ) (p : Pace) (programs : List Program) (r : Robot)
    (s : Recording σ) :
    (h.recorded.runs p programs r s).map Progress.unrecorded = h.runs p programs r s.state := by
  induction programs generalizing r s with
  | nil => rfl
  | cons program rest ih =>
      have hdone := h.unrecorded_run p program r s
      rw [runs, List.map_cons, ih, hdone, runs, ← hdone]
      rfl

/-- What stays true of the surroundings is true of them after every run. -/
theorem Invariant.runs {I : σ → Prop} (hI : h.Invariant I) (programs : List Program) (r : Robot)
    {s : σ} (hs : I s) : ∀ done ∈ h.runs p programs r s, I done.state := by
  induction programs generalizing r s with
  | nil => simp [Host.runs]
  | cons program rest ih =>
      have hdone : I (h.run p program r s).state :=
        (hI.simulation.run (p := p) program r s s ⟨rfl, hs⟩).2.1.2
      exact List.forall_mem_cons.mpr ⟨hdone, ih _ hdone⟩

end TangibleBlocks.Host
