import TangibleBlocks.Proofs.Robot.Jumping
import TangibleBlocks.Proofs.Robot.Requests

/-!
Refusals leave no trace. A motion that is refused or given up leaves the robot as
it is and the world alone, and to complete a motion that has been refused changes
nothing either. So refusals may be left out of what a robot is asked for: all other
requests have the same answers and the same effects. Only the numbers of the motions
change, since those that have been refused are not counted any more.
-/

namespace TangibleBlocks

/-- What stands at a place of a list stands, if it is kept by a filter, behind as many elements as
are kept before it. -/
theorem getElem?_filter_countP_take {α : Type} {p : α → Bool} {l : List α} {n : Nat}
    (hp : ∀ a, l[n]? = some a → p a = true) :
    (l.filter p)[(l.take n).countP p]? = l[n]? := by
  induction l generalizing n with
  | nil => simp
  | cons b l ih =>
      cases n with
      | zero =>
          have hb : p b = true := hp b rfl
          rw [List.filter_cons_of_pos hb]
          rfl
      | succ n =>
          have hrest : (l.filter p)[(l.take n).countP p]? = l[n]? := ih hp
          rw [List.take_succ_cons, List.getElem?_cons_succ, ← hrest]
          cases hb : p b with
          | true => rw [List.filter_cons_of_pos hb, List.countP_cons_of_pos hb, List.getElem?_cons_succ]
          | false =>
              have hb' : ¬ p b = true := by simp [hb]
              rw [List.filter_cons_of_neg hb', List.countP_cons_of_neg hb']

@[simp] theorem Motion.isRejected_rejected (k : Motion.Kind) (c : Cell) :
    (Motion.rejected k c).isRejected = true := rfl

namespace Robot

/-- What can be seen of a request: the motion that it returns or the one that it completes, and the
robot and the world before and after it. -/
structure Step (σ : Type) where
  returned? : Option Motion
  completed? : Option Motion
  before : Robot × σ
  after : Robot × σ

/-- A motion is refused, or one that has been refused is completed. -/
def Step.isRefusal {σ : Type} (t : Step σ) : Bool :=
  t.returned?.any Motion.isRejected || t.completed?.any Motion.isRejected

namespace Event

/-- The motions in a log that have not been refused, in their order. -/
def accepted (log : List Event) : List Motion :=
  (motions log).filter fun m => !m.isRejected

/-- The number of a motion among those that have not been refused. -/
def renumber (log : List Event) (number : Nat) : Nat :=
  ((motions log).take number).countP fun m => !m.isRejected

theorem accepted_returned (m : Motion) (log : List Event) :
    accepted (.returned m :: log) = accepted log ++ if m.isRejected then [] else [m] := by
  cases hm : m.isRejected <;> simp [accepted, hm]

@[simp] theorem accepted_completed (n : Nat) (m : Motion) (log : List Event) :
    accepted (.completed n m :: log) = accepted log := rfl

end Event

namespace Course

variable {σ : Type}

/-- The same without the record. -/
def unrecorded (u : Course (Recording σ)) : Course σ :=
  ⟨u.robot, u.world.state, u.log⟩

section Steps

variable (w : World σ) (timing : Timing)

def returned? (u : Course σ) : Request → Option Motion
  | .face h => some (u.robot.face timing h).2
  | .walk steps => some (u.robot.walk w timing steps u.world).motion
  | .jump steps => some (u.robot.jump w timing steps u.world).motion
  | .complete _ => none

def completed? (u : Course σ) : Request → Option Motion
  | .complete number => (Event.motions u.log)[number]?
  | _ => none

def step (u : Course σ) (q : Request) : Step σ :=
  let v := u.ask w timing q
  ⟨u.returned? w timing q, u.completed? q, (u.robot, u.world), (v.robot, v.world)⟩

def steps : Course σ → List Request → List (Step σ)
  | _, [] => []
  | u, q :: qs => u.step w timing q :: steps (u.ask w timing q) qs

/-- The same request where motions that have been refused do not count. -/
def renumbered (u : Course σ) : Request → Request
  | .complete number => .complete (Event.renumber u.log number)
  | q => q

/-- The requests that are left if all refusals are left out. -/
def withoutRefusals : Course σ → List Request → List Request
  | _, [] => []
  | u, q :: qs =>
    let rest := withoutRefusals (u.ask w timing q) qs
    if (u.step w timing q).isRefusal then rest else u.renumbered q :: rest

end Steps

variable {w : World σ} {timing : Timing} {u v : Course σ}

/-! ### Single requests -/

/-- Whether a motion is refused is up to the robot alone. -/
@[simp] theorem isRefusal_step_face (h : Heading) :
    (u.step w timing (.face h)).isRefusal = u.robot.busy := by
  simp [step, Step.isRefusal, returned?, completed?]

@[simp] theorem isRefusal_step_walk (n : Nat) :
    (u.step w timing (.walk n)).isRefusal = u.robot.busy := by
  simp [step, Step.isRefusal, returned?, completed?]

@[simp] theorem isRefusal_step_jump (n : Nat) :
    (u.step w timing (.jump n)).isRefusal = u.robot.busy := by
  simp [step, Step.isRefusal, returned?, completed?]

@[simp] theorem isRefusal_step_complete (number : Nat) :
    (u.step w timing (.complete number)).isRefusal =
      (Event.motions u.log)[number]?.any Motion.isRejected := rfl

/-- A refusal changes nothing but the log, and there none of the motions that count. -/
theorem ask_of_isRefusal {q : Request} (hq : (u.step w timing q).isRefusal = true) :
    (u.ask w timing q).robot = u.robot ∧ (u.ask w timing q).world = u.world ∧
      Event.accepted (u.ask w timing q).log = Event.accepted u.log := by
  cases q with
  | face h =>
      rw [isRefusal_step_face] at hq
      simp [ask, face_of_busy timing hq, Event.accepted_returned]
  | walk n =>
      rw [isRefusal_step_walk] at hq
      simp [ask, walk_of_busy w timing hq, Event.accepted_returned]
  | jump n =>
      rw [isRefusal_step_jump] at hq
      simp [ask, jump_of_busy w timing hq, Event.accepted_returned]
  | complete number =>
      rw [isRefusal_step_complete] at hq
      cases hm : (Event.motions u.log)[number]? with
      | none => simp [hm] at hq
      | some m =>
          have hrejected : m.isRejected = true := by simpa [hm] using hq
          simp [ask, hm, complete, hrejected]

/-- A motion that is refused or given up changes neither the robot nor the world. -/
theorem after_eq_before {q : Request} {m : Motion} (hm : (u.step w timing q).returned? = some m)
    (hnone : m.outcome = .rejected ∨ m.outcome = .voided) :
    (u.step w timing q).after = (u.step w timing q).before := by
  cases hq : (u.step w timing q).isRefusal with
  | true =>
      obtain ⟨hrobot, hworld, -⟩ := ask_of_isRefusal hq
      exact Prod.ext hrobot hworld
  | false =>
      -- Only a jump can be given up.
      cases q with
      | face h =>
          rw [isRefusal_step_face] at hq
          simp only [step, returned?, face_of_idle timing hq, Option.some.injEq] at hm
          subst hm
          simp at hnone
      | walk n =>
          rw [isRefusal_step_walk] at hq
          obtain ⟨cells, target, -, -, -, hwalk⟩ := exists_walk_of_idle w timing hq n u.world
          simp only [step, returned?, hwalk, Option.some.injEq] at hm
          subst hm
          by_cases hn : cells.length = n <;> simp [hn] at hnone
      | jump n =>
          rw [isRefusal_step_jump] at hq
          rcases exists_jump_of_idle w timing hq n u.world with hjump | ⟨d, -, -, hjump⟩
          · simp only [step, ask, hjump]
          · simp only [step, returned?, hjump, Option.some.injEq] at hm
            subst hm
            simp at hnone
      | complete number => cases hm

/-! ### Courses without refusals -/

/-- Two courses that agree but for the motions that have been refused in the first. -/
structure Agrees (u v : Course σ) : Prop where
  robot : v.robot = u.robot
  world : v.world = u.world
  motions : Event.motions v.log = Event.accepted u.log

theorem Agrees.of_refusal (h : u.Agrees v) {q : Request}
    (hq : (u.step w timing q).isRefusal = true) : (u.ask w timing q).Agrees v := by
  obtain ⟨hrobot, hworld, haccepted⟩ := ask_of_isRefusal hq
  exact ⟨h.robot.trans hrobot.symm, h.world.trans hworld.symm, h.motions.trans haccepted.symm⟩

theorem Agrees.returned (h : u.Agrees v) {m : Motion} (hm : m.isRejected = false) (r : Robot)
    (s : σ) : Agrees ⟨r, s, .returned m :: u.log⟩ ⟨r, s, .returned m :: v.log⟩ where
  robot := rfl
  world := rfl
  motions := by simp [Event.accepted_returned, h.motions, hm]

/-- A motion that has not been refused is found under its new number. -/
theorem Agrees.getElem?_renumber (h : u.Agrees v) {number : Nat}
    (hnumber : (Event.motions u.log)[number]?.any Motion.isRejected = false) :
    (Event.motions v.log)[Event.renumber u.log number]? = (Event.motions u.log)[number]? := by
  rw [h.motions]
  refine getElem?_filter_countP_take fun m hm => ?_
  simpa [hm] using hnumber

/-- Courses that agree have the same answer to a request that is no refusal, and agree behind it. -/
theorem Agrees.ask (h : u.Agrees v) {q : Request} (hq : (u.step w timing q).isRefusal = false) :
    v.step w timing (u.renumbered q) = u.step w timing q ∧
      (u.ask w timing q).Agrees (v.ask w timing (u.renumbered q)) := by
  cases q with
  | face d =>
      rw [isRefusal_step_face] at hq
      simp only [step, returned?, completed?, renumbered, Course.ask, h.robot, h.world, true_and]
      exact h.returned (by simpa using hq) _ _
  | walk n =>
      rw [isRefusal_step_walk] at hq
      simp only [step, returned?, completed?, renumbered, Course.ask, h.robot, h.world, true_and]
      exact h.returned (by simpa using hq) _ _
  | jump n =>
      rw [isRefusal_step_jump] at hq
      simp only [step, returned?, completed?, renumbered, Course.ask, h.robot, h.world, true_and]
      exact h.returned (by simpa using hq) _ _
  | complete number =>
      rw [isRefusal_step_complete] at hq
      have hfound := h.getElem?_renumber hq
      simp only [step, returned?, completed?, renumbered, Course.ask, h.robot, h.world, hfound]
      cases (Event.motions u.log)[number]? with
      | none =>
          simp only [h.robot, h.world, true_and]
          exact h
      | some m => exact ⟨rfl, rfl, rfl, h.motions⟩

variable (w timing) in
/-- Without the refusals, the other requests are left as they are, and so is the end. -/
theorem Agrees.withoutRefusals (h : u.Agrees v) (qs : List Request) :
    v.steps w timing (u.withoutRefusals w timing qs) =
        (u.steps w timing qs).filter (fun t => !t.isRefusal) ∧
      (u.askAll w timing qs).Agrees (v.askAll w timing (u.withoutRefusals w timing qs)) := by
  induction qs generalizing u v with
  | nil => exact ⟨rfl, h⟩
  | cons q qs ih =>
      simp only [Course.withoutRefusals, steps]
      cases hq : (u.step w timing q).isRefusal with
      | true =>
          rw [if_pos rfl, List.filter_cons_of_neg (by simp [hq])]
          exact ih (h.of_refusal hq)
      | false =>
          obtain ⟨hstep, hagrees⟩ := h.ask hq
          obtain ⟨hsteps, hend⟩ := ih hagrees
          rw [if_neg Bool.false_ne_true, List.filter_cons_of_pos (by simp [hq]), steps, hstep, hsteps]
          exact ⟨rfl, hend⟩

theorem forall_mem_steps {P : Step σ → Prop} (hP : ∀ (u : Course σ) q, P (u.step w timing q))
    (qs : List Request) : ∀ t ∈ u.steps w timing qs, P t := by
  induction qs generalizing u with
  | nil => simp [steps]
  | cons q qs ih => exact List.forall_mem_cons.mpr ⟨hP u q, ih⟩

/-! ### Keeping a record -/

theorem unrecorded_ask (u : Course (Recording σ)) (q : Request) :
    (u.ask (Host.ofWorld w).recorded.toWorld timing q).unrecorded = u.unrecorded.ask w timing q := by
  cases q with
  | face h => rfl
  | walk n =>
      simp only [ask, unrecorded, ← unrecorded_walk w timing u.robot n u.world]
      rfl
  | jump n =>
      simp only [ask, unrecorded, ← unrecorded_jump w timing u.robot n u.world]
      rfl
  | complete number =>
      simp only [ask, unrecorded]
      split <;> rfl

theorem unrecorded_askAll (u : Course (Recording σ)) (qs : List Request) :
    (u.askAll (Host.ofWorld w).recorded.toWorld timing qs).unrecorded =
      u.unrecorded.askAll w timing qs := by
  induction qs generalizing u with
  | nil => rfl
  | cons q qs ih =>
      rw [askAll, List.foldl_cons, ← askAll, ih, unrecorded_ask]
      rfl

/-- Whatever a robot is asked for and told, busy or not: a request whose motion is refused or given
up leaves the robot as it is, and the world with all that has been looked for. If all motions that
are refused are left out, together with their completions, then every other request returns or
completes the same motion as before, with the same robot and the same world before it and after it,
and so the end is the same, too. -/
theorem steps_withoutRefusals (w : World σ) (timing : Timing) (r : Robot) (s : σ)
    (qs : List Request) :
    let recorded := (Host.ofWorld w).recorded.toWorld
    let u : Course (Recording σ) := ⟨r, ⟨s, #[], #[]⟩, []⟩
    let rest := u.withoutRefusals recorded timing qs
    (∀ t ∈ u.steps recorded timing qs, ∀ m, t.returned? = some m →
        m.outcome = .rejected ∨ m.outcome = .voided → t.after = t.before) ∧
      u.steps recorded timing rest = (u.steps recorded timing qs).filter (fun t => !t.isRefusal) ∧
      (u.askAll recorded timing rest).robot = (u.askAll recorded timing qs).robot ∧
      (u.askAll recorded timing rest).world = (u.askAll recorded timing qs).world ∧
      ∀ qs, (u.askAll recorded timing qs).unrecorded = askAll w timing ⟨r, s, []⟩ qs := by
  intro recorded u rest
  have hagrees : u.Agrees u := ⟨rfl, rfl, rfl⟩
  obtain ⟨hsteps, hend⟩ := hagrees.withoutRefusals recorded timing qs
  refine ⟨?_, hsteps, hend.robot, hend.world, unrecorded_askAll u⟩
  exact forall_mem_steps (fun _ _ _ hm hnone => after_eq_before hm hnone) qs

/-- The jump is refused. Without it, the second walk has the number 2 instead of 3. -/
example :
    let everywhere : World Unit := ⟨fun _ _ => true, fun s _ => s⟩
    withoutRefusals everywhere .usual (fresh ⟨0, 0⟩ .right ())
        [.walk 1, .jump 2, .complete 1, .complete 0, .face .up, .walk 1, .complete 3] =
      [.walk 1, .complete 0, .face .up, .walk 1, .complete 2] := by
  decide

end Course

end Robot

end TangibleBlocks
