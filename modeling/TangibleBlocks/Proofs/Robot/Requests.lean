import TangibleBlocks.Proofs.Robot.Moving

/-!
Robots in use. A robot is asked for motions, and it is told that motions it has
returned are completed: any of them, in any order and any number of times. It
stays busy as long as, since the last walk or jump that it accepted, it has been
told of nothing but refused motions. So it is never busy without a motion in
flight. It may be free with one, though: being told of a turn, of a jump that
was given up or of an older motion releases it, too.
-/

namespace TangibleBlocks

namespace Motion

/-- A walk or a jump that has been accepted. -/
def IsDeparture (m : Motion) : Prop :=
  (m.kind = .walk ∨ m.kind = .jump) ∧ (m.outcome = .completed ∨ ∃ n, m.outcome = .partly n)

theorem IsDeparture.isRejected_eq_false {m : Motion} (hm : m.IsDeparture) :
    m.isRejected = false := by
  rcases hm.2 with ho | ⟨n, ho⟩ <;> simp [isRejected, ho]

end Motion

namespace Robot

/-- What a robot can be asked for. Motions are completed by their numbers. -/
inductive Request where
  | face (h : Heading)
  | walk (steps : Nat)
  | jump (steps : Nat)
  | complete (number : Nat)
  deriving DecidableEq

/-- What has come of a request. -/
inductive Event where
  | returned (m : Motion)
  | completed (number : Nat) (m : Motion)
  deriving DecidableEq

namespace Event

def motion? : Event → Option Motion
  | returned m => some m
  | completed _ _ => none

/-- The motions that have been returned, in their order. The latest event comes first. -/
def motions (log : List Event) : List Motion :=
  (log.filterMap motion?).reverse

/-- The walk or jump that was accepted last, between what has happened since and what happened
before. -/
def LastDeparture (log since : List Event) (m : Motion) (before : List Event) : Prop :=
  log = since ++ .returned m :: before ∧ m.IsDeparture ∧
    ∀ m', .returned m' ∈ since → ¬ m'.IsDeparture

/-- The walk or jump that was accepted last has not been completed since. Its number is that of the
motions before it. -/
def InFlight (log : List Event) : Prop :=
  ∃ since m before, LastDeparture log since m before ∧
    ∀ m', .completed (motions before).length m' ∉ since

/-- Since the last walk or jump was accepted, none but refused motions have been completed. -/
def Undisturbed (log : List Event) : Prop :=
  ∃ since m before, LastDeparture log since m before ∧
    ∀ n m', .completed n m' ∈ since → m'.isRejected = true

theorem lastDeparture_cons_iff {e : Event} {log since before : List Event} {m : Motion} :
    LastDeparture (e :: log) since m before ↔
      (e = .returned m ∧ m.IsDeparture ∧ since = [] ∧ before = log) ∨
        ∃ later, since = e :: later ∧ (∀ m', e = .returned m' → ¬ m'.IsDeparture) ∧
          LastDeparture log later m before := by
  constructor
  · rintro ⟨he, hm, hsince⟩
    cases since with
    | nil =>
        obtain ⟨rfl, rfl⟩ := List.cons.inj he
        exact .inl ⟨rfl, hm, rfl, rfl⟩
    | cons d later =>
        obtain ⟨rfl, rfl⟩ := List.cons.inj he
        obtain ⟨hhead, htail⟩ :
            (∀ m', e = .returned m' → ¬ m'.IsDeparture) ∧
              ∀ m', .returned m' ∈ later → ¬ m'.IsDeparture :=
          ⟨fun m' h => hsince m' (h ▸ List.mem_cons_self),
            fun m' h => hsince m' (List.mem_cons_of_mem e h)⟩
        exact .inr ⟨later, rfl, hhead, rfl, hm, htail⟩
  · rintro (⟨rfl, hm, rfl, rfl⟩ | ⟨later, rfl, hhead, rfl, hm, htail⟩)
    · exact ⟨rfl, hm, by simp⟩
    · refine ⟨rfl, hm, fun m' h => ?_⟩
      rcases List.mem_cons.mp h with h | h
      · exact hhead m' h.symm
      · exact htail m' h

theorem not_undisturbed_nil : ¬ Undisturbed [] := by
  rintro ⟨since, m, before, ⟨he, -⟩, -⟩
  simp at he

theorem undisturbed_returned_iff {m : Motion} {log : List Event} :
    Undisturbed (.returned m :: log) ↔ m.IsDeparture ∨ Undisturbed log := by
  constructor
  · rintro ⟨since, d, before, hlast, hrefused⟩
    rcases lastDeparture_cons_iff.mp hlast with ⟨he, hd, -⟩ | ⟨later, rfl, -, hlater⟩
    · cases he
      exact .inl hd
    · exact .inr ⟨later, d, before, hlater,
        fun n m' h => hrefused n m' (List.mem_cons_of_mem _ h)⟩
  · intro h
    by_cases hm : m.IsDeparture
    · exact ⟨[], m, log, lastDeparture_cons_iff.mpr (.inl ⟨rfl, hm, rfl, rfl⟩), by simp⟩
    · obtain ⟨later, d, before, hlater, hrefused⟩ := h.resolve_left hm
      refine ⟨.returned m :: later, d, before,
        lastDeparture_cons_iff.mpr (.inr ⟨later, rfl, ?_, hlater⟩), by simpa using hrefused⟩
      intro m' he
      cases he
      exact hm

theorem undisturbed_completed_iff {n : Nat} {m : Motion} {log : List Event} :
    Undisturbed (.completed n m :: log) ↔ m.isRejected = true ∧ Undisturbed log := by
  constructor
  · rintro ⟨since, d, before, hlast, hrefused⟩
    rcases lastDeparture_cons_iff.mp hlast with ⟨he, -⟩ | ⟨later, rfl, -, hlater⟩
    · cases he
    · exact ⟨hrefused n m List.mem_cons_self, later, d, before, hlater,
        fun n' m' h => hrefused n' m' (List.mem_cons_of_mem _ h)⟩
  · rintro ⟨hm, later, d, before, hlater, hrefused⟩
    refine ⟨.completed n m :: later, d, before,
      lastDeparture_cons_iff.mpr (.inr ⟨later, rfl, by simp, hlater⟩), fun n' m' h => ?_⟩
    rcases List.mem_cons.mp h with h | h
    · cases h
      exact hm
    · exact hrefused n' m' h

/-! Numbers are right: a motion is completed under the number under which it was returned. -/

@[simp] theorem motions_nil : motions [] = [] := rfl

@[simp] theorem motions_returned (m : Motion) (log : List Event) :
    motions (.returned m :: log) = motions log ++ [m] := by
  simp [motions, motion?]

@[simp] theorem motions_completed (n : Nat) (m : Motion) (log : List Event) :
    motions (.completed n m :: log) = motions log := rfl

theorem motions_append (since before : List Event) :
    motions (since ++ before) = motions before ++ motions since := by
  simp [motions]

/-- Every number in a log is that of the motion beside it. -/
def Numbered (log : List Event) : Prop :=
  ∀ n m, .completed n m ∈ log → (motions log)[n]? = some m

theorem Numbered.returned {log : List Event} (hlog : Numbered log) (m : Motion) :
    Numbered (.returned m :: log) := by
  intro n m' h
  have hm' : (motions log)[n]? = some m' := hlog n m' (by simpa using h)
  obtain ⟨hn, -⟩ := List.getElem?_eq_some_iff.mp hm'
  rw [motions_returned, List.getElem?_append_left hn, hm']

theorem Numbered.completed {log : List Event} (hlog : Numbered log) {n : Nat} {m : Motion}
    (hm : (motions log)[n]? = some m) : Numbered (.completed n m :: log) := by
  intro n' m' h
  rw [motions_completed]
  rcases List.mem_cons.mp h with h | h
  · cases h
    exact hm
  · exact hlog n' m' h

/-- To complete the last walk or jump is a disturbance, since it has not been refused. -/
theorem Undisturbed.inFlight {log : List Event} (hlog : Numbered log) (h : Undisturbed log) :
    InFlight log := by
  obtain ⟨since, m, before, hlast, hrefused⟩ := h
  refine ⟨since, m, before, hlast, fun m' hm' => ?_⟩
  obtain ⟨rfl, hm, -⟩ := hlast
  have hsame : (motions (since ++ .returned m :: before))[(motions before).length]? = some m' :=
    hlog _ m' (List.mem_append_left _ hm')
  rw [motions_append, motions_returned, List.append_assoc] at hsame
  have hmm' : m = m' := by simpa using hsame
  have hrejected : m.isRejected = true := hrefused _ m (hmm' ▸ hm')
  rw [hm.isRejected_eq_false] at hrejected
  cases hrejected

end Event

/-! A robot is busy after a motion if it was busy before, or else if the motion is a departure. -/

section Departing

variable {σ : Type} (w : World σ) (timing : Timing)

theorem busy_face_iff (r : Robot) (h : Heading) :
    (r.face timing h).1.busy = true ↔
      (r.face timing h).2.IsDeparture ∨ r.busy = true := by
  cases hr : r.busy with
  | true => simp [face_of_busy timing hr, hr]
  | false => simp [face_of_idle timing hr, hr, Motion.IsDeparture]

theorem busy_walk_iff (r : Robot) (steps : Nat) (s : σ) :
    (r.walk w timing steps s).robot.busy = true ↔
      (r.walk w timing steps s).motion.IsDeparture ∨ r.busy = true := by
  cases hr : r.busy with
  | true => simp [walk_of_busy w timing hr, hr]
  | false =>
      obtain ⟨cells, target, -, -, -, hwalk⟩ := exists_walk_of_idle w timing hr steps s
      rw [hwalk]
      by_cases hn : cells.length = steps <;> simp [Motion.IsDeparture, hn]

theorem busy_jump_iff (r : Robot) (steps : Nat) (s : σ) :
    (r.jump w timing steps s).robot.busy = true ↔
      (r.jump w timing steps s).motion.IsDeparture ∨ r.busy = true := by
  cases hr : r.busy with
  | true => simp [jump_of_busy w timing hr, hr]
  | false =>
      rcases exists_jump_of_idle w timing hr steps s with hjump | ⟨c, -, -, hjump⟩
      · simp [hjump, hr, Motion.voided, Motion.IsDeparture]
      · simp [hjump, Motion.IsDeparture]

end Departing

/-- A robot in use, its world and what has happened so far. -/
structure Course (σ : Type) where
  robot : Robot
  world : σ
  log : List Event

namespace Course

variable {σ : Type}

def fresh (c : Cell) (h : Heading) (s : σ) : Course σ :=
  ⟨.idle c h, s, []⟩

def ask (w : World σ) (timing : Timing) (u : Course σ) : Request → Course σ
  | .face h =>
    let (r, m) := u.robot.face timing h
    ⟨r, u.world, .returned m :: u.log⟩
  | .walk steps =>
    let moved := u.robot.walk w timing steps u.world
    ⟨moved.robot, moved.world, .returned moved.motion :: u.log⟩
  | .jump steps =>
    let moved := u.robot.jump w timing steps u.world
    ⟨moved.robot, moved.world, .returned moved.motion :: u.log⟩
  | .complete number =>
    match (Event.motions u.log)[number]? with
    | none => u
    | some m => ⟨u.robot.complete m, u.world, .completed number m :: u.log⟩

def askAll (w : World σ) (timing : Timing) (u : Course σ) (qs : List Request) : Course σ :=
  qs.foldl (ask w timing) u

/-- What the log says about the robot. -/
structure Faithful (u : Course σ) : Prop where
  busy_iff : u.robot.busy = true ↔ Event.Undisturbed u.log
  numbered : Event.Numbered u.log

theorem faithful_fresh (c : Cell) (h : Heading) (s : σ) : (fresh c h s).Faithful where
  busy_iff := ⟨fun h => absurd h Bool.false_ne_true, fun h => absurd h Event.not_undisturbed_nil⟩
  numbered := fun _ _ h => absurd h List.not_mem_nil

/-- A motion that leaves the robot as busy as it was, or that departs, is logged faithfully. -/
theorem Faithful.returned {u : Course σ} (hu : u.Faithful) {r : Robot} {s : σ} {m : Motion}
    (hr : r.busy = true ↔ m.IsDeparture ∨ u.robot.busy = true) :
    Faithful ⟨r, s, .returned m :: u.log⟩ where
  busy_iff := by rw [Event.undisturbed_returned_iff, ← hu.busy_iff, hr]
  numbered := hu.numbered.returned m

theorem Faithful.completed {u : Course σ} (hu : u.Faithful) {n : Nat} {m : Motion}
    (hm : (Event.motions u.log)[n]? = some m) :
    Faithful ⟨u.robot.complete m, u.world, .completed n m :: u.log⟩ where
  busy_iff := by
    rw [Event.undisturbed_completed_iff, ← hu.busy_iff]
    cases hrejected : m.isRejected <;> simp [complete, hrejected]
  numbered := hu.numbered.completed hm

variable (w : World σ) (timing : Timing)

theorem Faithful.ask {u : Course σ} (hu : u.Faithful) (q : Request) :
    (u.ask w timing q).Faithful := by
  cases q with
  | face h => exact hu.returned (busy_face_iff timing u.robot h)
  | walk steps => exact hu.returned (busy_walk_iff w timing u.robot steps u.world)
  | jump steps => exact hu.returned (busy_jump_iff w timing u.robot steps u.world)
  | complete number =>
      simp only [Course.ask]
      split
      case h_1 => exact hu
      case h_2 m hm => exact hu.completed hm

theorem Faithful.askAll {u : Course σ} (hu : u.Faithful) (qs : List Request) :
    (u.askAll w timing qs).Faithful := by
  induction qs generalizing u with
  | nil => exact hu
  | cons q qs ih => exact ih (hu.ask w timing q)

/-- Whatever a robot has been asked for and told, it is busy exactly if it has been told of nothing
but refused motions since it accepted its last walk or jump. Then that motion is in flight. Being
busy and having a motion in flight are the same exactly as long as no other motion is completed
while there is one in flight, unless it has been refused. -/
theorem busy_iff_undisturbed (c : Cell) (h : Heading) (s : σ) (qs : List Request) :
    let u := (fresh c h s).askAll w timing qs
    (u.robot.busy = true ↔ Event.Undisturbed u.log) ∧
      (u.robot.busy = true → Event.InFlight u.log) ∧
      ((u.robot.busy = true ↔ Event.InFlight u.log) ↔
        (Event.InFlight u.log → Event.Undisturbed u.log)) := by
  intro u
  have hu : u.Faithful := (faithful_fresh c h s).askAll w timing qs
  have hflight : u.robot.busy = true → Event.InFlight u.log :=
    fun hb => (hu.busy_iff.mp hb).inFlight hu.numbered
  refine ⟨hu.busy_iff, hflight, ?_⟩
  constructor
  · exact fun hsame hf => hu.busy_iff.mp (hsame.mpr hf)
  · exact fun hundisturbed => ⟨hflight, fun hf => hu.busy_iff.mpr (hundisturbed hf)⟩

/-- A robot that has been told of a turn is free, although it has set out for a walk since. -/
theorem free_in_flight :
    let w : World Unit := ⟨fun _ _ => true, fun s _ => s⟩
    let u := (fresh ⟨0, 0⟩ .right ()).askAll w .usual [.face .down, .walk 1, .complete 0]
    u.robot.busy = false ∧ Event.InFlight u.log := by
  intro w u
  let turned : Motion := ⟨.turn, ⟨0, 0⟩, ⟨0, 0⟩, .completed, Timing.usual.turn⟩
  let walked : Motion := ⟨.walk, ⟨0, 0⟩, ⟨0, 1⟩, .completed, Timing.usual.step.times 1⟩
  have hlog : u.log = [.completed 0 turned] ++ .returned walked :: [.returned turned] := by decide
  have hdeparture : walked.IsDeparture := ⟨.inl rfl, .inl rfl⟩
  exact ⟨rfl, _, walked, _, ⟨hlog, hdeparture, by simp⟩, by simp⟩

end Course

end Robot

end TangibleBlocks
