import TangibleBlocks.Execution.Run

/-!
Executions in different surroundings. A relation between the activities in two
surroundings that is kept by doing one thing after the other and by the look at
the switch holds of whole programs as soon as it holds of commands. This is used
for surroundings that a robot cannot tell apart: it does the same in both of
them. Hence what collecting and waiting keep true of the surroundings is kept by
every program, and keeping a record of the calls changes nothing else.
-/

namespace TangibleBlocks

namespace Activity

variable {σ τ : Type}

/-- A relation between activities that is kept by everything programs are made of. -/
structure Congruence (h : Host σ) (h' : Host τ) (R : Activity σ → Activity τ → Prop) : Prop where
  skip : R .skip .skip
  andThen : ∀ {a b a' b'}, R a a' → R b b' → R (a.andThen b) (a'.andThen b')
  unlessCancelled : ∀ {a a'}, R a a' → R (.unlessCancelled h a) (.unlessCancelled h' a')

namespace Congruence

variable {h : Host σ} {h' : Host τ} {R : Activity σ → Activity τ → Prop} {p q : Pace}

theorem executeAll (hR : Congruence h h' R) (hc : ∀ c, R (h.execute p c) (h'.execute q c))
    (cs : List Command) : R (h.executeAll p cs) (h'.executeAll q cs) := by
  induction cs with
  | nil => exact hR.skip
  | cons c cs ih => exact hR.andThen (hc c) ih

theorem rounds (hR : Congruence h h' R) (hc : ∀ c, R (h.execute p c) (h'.execute q c))
    (body : List Command) (n : Nat) : R (h.rounds p body n) (h'.rounds q body n) := by
  induction n with
  | zero => exact hR.skip
  | succ n ih => exact hR.unlessCancelled (hR.andThen (hR.executeAll hc body) ih)

theorem nodes (hR : Congruence h h' R) (hc : ∀ c, R (h.execute p c) (h'.execute q c))
    (ns : List Node) : R (h.nodes p ns) (h'.nodes q ns) := by
  induction ns with
  | nil => exact hR.skip
  | cons n ns ih =>
      refine hR.unlessCancelled (hR.andThen ?_ ih)
      cases n with
      | command c => exact hc c
      | loop k body => exact hR.rounds hc body k

/-- What holds of all commands and of the report at the end holds of all programs. -/
theorem run (hR : Congruence h h' R) (hc : ∀ c, R (h.execute p c) (h'.execute q c))
    (hend : R (.note .ofEnd) (.note .ofEnd)) (program : Program) :
    R (h.run p program) (h'.run q program) :=
  hR.andThen (hR.nodes hc program.nodes) hend

end Congruence

/-- Two activities that leave the same robot and the same report behind, and related states, if
they start with the same robot in related states. -/
def Matches (S : σ → τ → Prop) (a : Activity σ) (b : Activity τ) : Prop :=
  ∀ r s t, S s t →
    (a r s).robot = (b r t).robot ∧ S (a r s).state (b r t).state ∧
      (a r s).report = (b r t).report

end Activity

namespace Host

open Activity (Matches)

variable {σ τ : Type} {h : Host σ} {h' : Host τ} {S : σ → τ → Prop} {p : Pace}

/-- Surroundings that a robot cannot tell apart as long as their states are related. -/
structure Simulation (h : Host σ) (h' : Host τ) (S : σ → τ → Prop) : Prop where
  passable : ∀ s t, S s t → h.passable s = h'.passable t
  cancelled : ∀ s t, S s t → h.cancelled s = h'.cancelled t
  collect : ∀ s t c, S s t → S (h.collect s c) (h'.collect t c)
  wait : ∀ s t d, S s t → S (h.wait s d) (h'.wait t d)

namespace Simulation

theorem congruence (hS : Simulation h h' S) : Activity.Congruence h h' (Matches S) where
  skip := fun _ _ _ hst => ⟨rfl, hst, rfl⟩
  andThen := by
    intro a b a' b' ha hb r s t hst
    obtain ⟨hrobot, hstate, hreport⟩ := ha r s t hst
    obtain ⟨hrobot', hstate', hreport'⟩ := hb (a' r t).robot _ _ hstate
    simp only [Activity.andThen, hrobot, hreport]
    exact ⟨hrobot', hstate', by rw [hreport']⟩
  unlessCancelled := by
    intro a a' ha r s t hst
    simp only [Activity.unlessCancelled, hS.cancelled s t hst]
    split
    · exact ⟨rfl, hst, rfl⟩
    · exact ha r s t hst

theorem settle (hS : Simulation h h' S) (m : Motion) : Matches S (h.settle m) (h'.settle m) := by
  intro r s t hst
  refine ⟨rfl, ?_, rfl⟩
  simp only [Host.settle]
  split
  · exact hst
  · exact hS.wait s t _ hst

theorem advance (hS : Simulation h h' S) (d : Heading) (n : Nat) (c : Cell) {s : σ} {t : τ}
    (hst : S s t) :
    let far := h.toWorld.advance d n c s
    let far' := h'.toWorld.advance d n c t
    far.1 = far'.1 ∧ far.2.1 = far'.2.1 ∧ S far.2.2 far'.2.2 := by
  induction n generalizing c s t with
  | zero => exact ⟨rfl, rfl, hst⟩
  | succ n ih =>
      -- The cells that can be entered are the same, and so is the one that comes next.
      have hstep : h.toWorld.enter? s c d = h'.toWorld.enter? t c d := by
        simp only [World.enter?, hS.passable s t hst]
      simp only [World.advance, hstep]
      split
      · exact ⟨rfl, rfl, hst⟩
      · exact ih _ (hS.collect s t _ hst)

theorem walk (hS : Simulation h h' S) (n : Nat) : Matches S (h.walk p n) (h'.walk p n) := by
  intro r s t hst
  obtain ⟨hleft, htarget, hworld⟩ := hS.advance r.heading n r.cell hst
  simp only [Host.walk, Robot.walk]
  split
  · exact hS.settle _ _ s t hst
  · simp only [hleft, htarget]
    exact hS.settle _ _ _ _ hworld

theorem jump (hS : Simulation h h' S) (n : Nat) : Matches S (h.jump p n) (h'.jump p n) := by
  intro r s t hst
  simp only [Host.jump, Robot.jump, hS.passable s t hst]
  split
  · exact hS.settle _ _ s t hst
  · split
    · exact hS.settle _ _ s t hst
    · exact hS.settle _ _ _ _ (hS.collect s t _ hst)

theorem turn (hS : Simulation h h' S) (d : Option Heading) :
    Matches S (h.turn p d) (h'.turn p d) := by
  cases d with
  | none => exact hS.congruence.skip
  | some d => exact fun r s t hst => hS.settle _ _ s t hst

theorem act (hS : Simulation h h' S) (c : Command) : Matches S (h.act p c) (h'.act p c) := by
  unfold Host.act
  cases c.action with
  | walk => exact hS.walk c.count
  | jump => exact hS.jump c.count
  | pickUp => exact fun r s t hst => ⟨rfl, hS.wait _ _ _ (hS.collect s t _ hst), rfl⟩
  | stay => exact hS.congruence.skip

theorem execute (hS : Simulation h h' S) (c : Command) :
    Matches S (h.execute p c) (h'.execute p c) := by
  refine hS.congruence.andThen (hS.turn _) (hS.congruence.andThen (hS.act c) ?_)
  exact fun r s t hst => ⟨rfl, hS.wait s t _ hst, rfl⟩

theorem executeAll (hS : Simulation h h' S) (cs : List Command) :
    Matches S (h.executeAll p cs) (h'.executeAll p cs) :=
  hS.congruence.executeAll hS.execute cs

theorem run (hS : Simulation h h' S) (program : Program) :
    Matches S (h.run p program) (h'.run p program) :=
  hS.congruence.run hS.execute (fun _ _ _ hst => ⟨rfl, hst, rfl⟩) program

end Simulation

/-! ### What stays true of the surroundings -/

/-- What is true of the surroundings and stays so, whatever is collected and however long the
robot waits. -/
structure Invariant (h : Host σ) (I : σ → Prop) : Prop where
  collect : ∀ s c, I s → I (h.collect s c)
  wait : ∀ s d, I s → I (h.wait s d)

/-- A switch that has been thrown stays thrown. -/
theorem invariant_cancelled (h : Host σ) : h.Invariant fun s => h.cancelled s = true :=
  ⟨h.cancelled_collect, h.cancelled_wait⟩

/-- With an invariant, the surroundings are like themselves. -/
theorem Invariant.simulation {I : σ → Prop} (hI : h.Invariant I) :
    Simulation h h fun s t => s = t ∧ I s where
  passable := fun s t hst => by rw [hst.1]
  cancelled := fun s t hst => by rw [hst.1]
  collect := fun s t c hst => ⟨by rw [hst.1], hI.collect s c hst.2⟩
  wait := fun s t d hst => ⟨by rw [hst.1], hI.wait s d hst.2⟩

theorem Invariant.executeAll {I : σ → Prop} (hI : h.Invariant I) (cs : List Command) (r : Robot)
    {s : σ} (hs : I s) : I (h.executeAll p cs r s).state :=
  (hI.simulation.executeAll cs r s s ⟨rfl, hs⟩).2.1.2

/-! ### Keeping a record -/

end Host

/-- The same without the record. -/
def Progress.unrecorded {σ : Type} (d : Progress (Recording σ)) : Progress σ :=
  ⟨d.robot, d.state.state, d.report⟩

namespace Host

variable {σ : Type} {h : Host σ}

theorem simulation_recorded (h : Host σ) : Simulation h.recorded h fun s t => s.state = t where
  passable := fun _ _ hst => congrArg h.passable hst
  cancelled := fun _ _ hst => congrArg h.cancelled hst
  collect := fun _ _ c hst => congrArg (h.collect · c) hst
  wait := fun _ _ d hst => congrArg (h.wait · d) hst

/-- A record of the calls changes nothing about a run. -/
theorem unrecorded_run (h : Host σ) (p : Pace) (program : Program) (r : Robot) (s : Recording σ) :
    (h.recorded.run p program r s).unrecorded = h.run p program r s.state := by
  obtain ⟨hrobot, hstate, hreport⟩ := h.simulation_recorded.run (p := p) program r s _ rfl
  simp only [Progress.unrecorded, hrobot, hstate, hreport]

/-- What stays true of the surroundings stays true of those with a record. -/
theorem Invariant.recorded {I : σ → Prop} (hI : h.Invariant I) :
    h.recorded.Invariant fun s => I s.state :=
  ⟨fun s c hs => hI.collect s.state c hs, fun s d hs => hI.wait s.state d hs⟩

end Host

end TangibleBlocks
