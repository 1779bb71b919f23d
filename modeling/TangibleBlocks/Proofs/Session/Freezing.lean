import Mathlib.Logic.Function.Basic
import TangibleBlocks.Session.Snapshot

/-!
Slots in use. A slot is asked for one thing after the other, by any number of
holders that share it and in any order. Its answers follow from what has happened
since it was last reset: it takes what is published until it is stopped or
captured, and a capture yields what it has taken last. So all captures between two
resets yield the same.
-/

namespace TangibleBlocks.Slot

/-- What a slot can be asked for. -/
inductive Operation where
  | publish (frame : Nat) (items : List Detection) (now : Timestamp)
  | stop
  | isStopped
  | capture
  | reset
  deriving DecidableEq

namespace Operation

def isReset : Operation → Bool
  | reset => true
  | _ => false

/-- Whether the slot takes nothing any more afterwards. -/
def freezes : Operation → Bool
  | stop => true
  | capture => true
  | _ => false

theorem isReset_eq_false {op : Operation} (h : op ≠ .reset) : op.isReset = false := by
  cases op with
  | reset => exact absurd rfl h
  | _ => rfl

theorem isReset_of_freezes {op : Operation} (h : op.freezes = true) : op.isReset = false := by
  refine isReset_eq_false ?_
  rintro rfl
  cases h

end Operation

inductive Answer where
  | done
  | flag (b : Bool)
  | captured (snapshot : Snapshot)
  deriving DecidableEq

def perform (s : Slot) : Operation → Slot × Answer
  | .publish frame items now =>
    let (s', taken) := s.publish frame items now
    (s', .flag taken)
  | .stop => (s.stop, .done)
  | .isStopped => (s, .flag s.stopped)
  | .capture =>
    let (s', snapshot) := s.capture
    (s', .captured snapshot)
  | .reset => (s.reset, .done)

/-- The slot after some operations. -/
def performAll (s : Slot) (ops : List Operation) : Slot :=
  ops.foldl (fun s op => (s.perform op).1) s

/-- Nothing but a reset changes a slot that has been stopped. -/
theorem perform_of_stopped {s : Slot} (hs : s.stopped = true) {op : Operation}
    (hop : op.isReset = false) : (s.perform op).1 = s := by
  obtain ⟨items, frame, updated, stopped⟩ := s
  obtain rfl : stopped = true := hs
  cases op with
  | publish frame items now => rfl
  | stop => rfl
  | isStopped => rfl
  | capture => rfl
  | reset => cases hop

theorem performAll_of_stopped {s : Slot} (hs : s.stopped = true) {ops : List Operation}
    (hops : ∀ op ∈ ops, op.isReset = false) : s.performAll ops = s := by
  induction ops with
  | nil => rfl
  | cons op ops ih =>
      obtain ⟨hop, hrest⟩ := List.forall_mem_cons.mp hops
      rw [performAll, List.foldl_cons, perform_of_stopped hs hop]
      exact ih hrest

/-! ### What has happened to a slot -/

/-- An operation with its answer. -/
structure Event where
  operation : Operation
  answer : Answer
  deriving DecidableEq

namespace Event

/-- What has been published, if the slot has taken it. -/
def taken? : Event → Option Snapshot
  | ⟨.publish frame items now, .flag true⟩ => some ⟨items, frame, some now⟩
  | _ => none

/-- What has happened since the last reset. In a log the latest event comes first. -/
def sinceReset (log : List Event) : List Event :=
  log.takeWhile fun e => !e.operation.isReset

/-- Since the last reset the slot has been stopped or captured. -/
def Frozen (log : List Event) : Prop :=
  ∃ e ∈ sinceReset log, e.operation.freezes = true

/-- What the slot has taken last since the last reset, if it has taken anything. -/
def latest (log : List Event) : Snapshot :=
  ((sinceReset log).findSome? taken?).getD ⟨[], 0, none⟩

/-- An answer that follows from what has happened before. -/
def Right (e : Event) (before : List Event) : Prop :=
  match e.operation with
  | .publish _ _ _ => ∃ taken, e.answer = .flag taken ∧ (taken = true ↔ ¬ Frozen before)
  | .isStopped => ∃ stopped, e.answer = .flag stopped ∧ (stopped = true ↔ Frozen before)
  | .capture => e.answer = .captured (latest before)
  | .stop => e.answer = .done
  | .reset => e.answer = .done

/-- All the answers follow from what has happened before them. -/
def AllRight : List Event → Prop
  | [] => True
  | e :: before => e.Right before ∧ AllRight before

theorem AllRight.of_suffix {log part : List Event} (h : AllRight log) (hpart : part <:+ log) :
    AllRight part := by
  induction log with
  | nil => rwa [List.suffix_nil.mp hpart]
  | cons e log ih =>
      rcases List.suffix_cons_iff.mp hpart with rfl | hpart
      · exact h
      · exact ih h.2 hpart

variable {e : Event} {log : List Event}

theorem sinceReset_cons_of_isReset (he : e.operation.isReset = true) :
    sinceReset (e :: log) = [] := by
  simp [sinceReset, he]

theorem sinceReset_cons (he : e.operation.isReset = false) :
    sinceReset (e :: log) = e :: sinceReset log := by
  simp [sinceReset, he]

theorem not_frozen_cons_of_isReset (he : e.operation.isReset = true) : ¬ Frozen (e :: log) := by
  simp [Frozen, sinceReset_cons_of_isReset he]

theorem frozen_cons_of_freezes (he : e.operation.freezes = true) : Frozen (e :: log) := by
  simp [Frozen, sinceReset_cons (Operation.isReset_of_freezes he), he]

theorem frozen_cons_iff (hreset : e.operation.isReset = false)
    (hfreezes : e.operation.freezes = false) : Frozen (e :: log) ↔ Frozen log := by
  simp [Frozen, sinceReset_cons hreset, hfreezes]

theorem Frozen.cons (h : Frozen log) (hreset : e.operation.isReset = false) :
    Frozen (e :: log) := by
  obtain ⟨d, hd, hfreezes⟩ := h
  exact ⟨d, by simp [sinceReset_cons hreset, hd], hfreezes⟩

theorem latest_cons_of_isReset (he : e.operation.isReset = true) :
    latest (e :: log) = ⟨[], 0, none⟩ := by
  simp [latest, sinceReset_cons_of_isReset he]

theorem latest_cons_of_taken {snapshot : Snapshot} (he : e.operation.isReset = false)
    (htaken : e.taken? = some snapshot) : latest (e :: log) = snapshot := by
  simp [latest, sinceReset_cons he, htaken]

theorem latest_cons (he : e.operation.isReset = false) (htaken : e.taken? = none) :
    latest (e :: log) = latest log := by
  simp [latest, sinceReset_cons he, htaken]

/-- A frozen slot takes nothing. -/
theorem taken?_eq_none_of_frozen (he : e.Right log) (hlog : Frozen log) : e.taken? = none := by
  obtain ⟨op, answer⟩ := e
  cases op with
  | publish frame items now =>
      obtain ⟨taken, rfl, htaken⟩ := he
      cases taken with
      | true => exact absurd hlog (htaken.mp rfl)
      | false => rfl
  | stop => rfl
  | isStopped => rfl
  | capture => rfl
  | reset => rfl

/-- What has been taken last stays the same from a capture to the next reset. -/
theorem latest_append_of_capture {between before : List Event} (he : e.operation = .capture)
    (hright : AllRight (between ++ e :: before))
    (hbetween : ∀ d ∈ between, d.operation.isReset = false) :
    Frozen (between ++ e :: before) ∧ latest (between ++ e :: before) = latest before := by
  induction between with
  | nil =>
      have hfreezes : e.operation.freezes = true := by rw [he]; rfl
      have htaken : e.taken? = none := by
        obtain ⟨op, answer⟩ := e
        cases he
        rfl
      exact ⟨frozen_cons_of_freezes hfreezes,
        latest_cons (Operation.isReset_of_freezes hfreezes) htaken⟩
  | cons d between ih =>
      obtain ⟨hd, hrest⟩ := List.forall_mem_cons.mp hbetween
      obtain ⟨hfrozen, hlatest⟩ := ih hright.2 hrest
      have htaken : d.taken? = none := taken?_eq_none_of_frozen hright.1 hfrozen
      exact ⟨hfrozen.cons hd, (latest_cons hd htaken).trans hlatest⟩

end Event

/-- What a log says about the slot. -/
structure Faithful (s : Slot) (log : List Event) : Prop where
  stopped_iff : s.stopped = true ↔ Event.Frozen log
  snapshot_eq : s.snapshot = Event.latest log

theorem faithful_empty : empty.Faithful [] where
  stopped_iff := by simp [empty, Event.Frozen, Event.sinceReset]
  snapshot_eq := rfl

variable {s : Slot} {log : List Event} {e : Event}

/-- Nothing is taken, and nothing else happens to the slot. -/
theorem Faithful.unchanged (h : s.Faithful log) (hreset : e.operation.isReset = false)
    (hfreezes : e.operation.freezes = false) (htaken : e.taken? = none) :
    s.Faithful (e :: log) where
  stopped_iff := h.stopped_iff.trans (Event.frozen_cons_iff hreset hfreezes).symm
  snapshot_eq := h.snapshot_eq.trans (Event.latest_cons hreset htaken).symm

theorem Faithful.stop (h : s.Faithful log) (hfreezes : e.operation.freezes = true)
    (htaken : e.taken? = none) : s.stop.Faithful (e :: log) where
  stopped_iff := ⟨fun _ => Event.frozen_cons_of_freezes hfreezes, fun _ => rfl⟩
  snapshot_eq :=
    h.snapshot_eq.trans (Event.latest_cons (Operation.isReset_of_freezes hfreezes) htaken).symm

theorem Faithful.taken (h : s.Faithful log) (hs : s.stopped = false) (snapshot : Snapshot)
    (hreset : e.operation.isReset = false) (hfreezes : e.operation.freezes = false)
    (htaken : e.taken? = some snapshot) :
    Faithful ⟨snapshot.items, snapshot.frame, snapshot.updated, false⟩ (e :: log) where
  stopped_iff := by
    rw [Event.frozen_cons_iff hreset hfreezes, ← h.stopped_iff, hs]
  snapshot_eq := (Event.latest_cons_of_taken hreset htaken).symm

theorem faithful_reset (s : Slot) (he : e.operation.isReset = true) :
    s.reset.Faithful (e :: log) where
  stopped_iff := ⟨fun h => absurd h Bool.false_ne_true,
    fun h => absurd h (Event.not_frozen_cons_of_isReset he)⟩
  snapshot_eq := (Event.latest_cons_of_isReset he).symm

/-- Every operation is logged faithfully. -/
theorem Faithful.perform (h : s.Faithful log) (op : Operation) :
    (s.perform op).1.Faithful (⟨op, (s.perform op).2⟩ :: log) := by
  cases op with
  | publish frame items now =>
      cases hs : s.stopped with
      | true =>
          have hrefused : s.perform (.publish frame items now) = (s, .flag false) := by
            simp [Slot.perform, publish, hs]
          rw [hrefused]
          exact h.unchanged rfl rfl rfl
      | false =>
          have htaken : s.perform (.publish frame items now) =
              (⟨items, frame, some now, false⟩, .flag true) := by
            simp [Slot.perform, publish, hs]
          rw [htaken]
          exact h.taken hs ⟨items, frame, some now⟩ rfl rfl rfl
  | stop => exact h.stop rfl rfl
  | isStopped => exact h.unchanged rfl rfl rfl
  | capture => exact h.stop rfl rfl
  | reset => exact faithful_reset s rfl

theorem Faithful.right (h : s.Faithful log) (op : Operation) :
    Event.Right ⟨op, (s.perform op).2⟩ log := by
  cases op with
  | publish frame items now =>
      refine ⟨(s.publish frame items now).2, rfl, ?_⟩
      rw [← h.stopped_iff, publish]
      cases s.stopped <;> simp
  | stop => rfl
  | isStopped => exact ⟨s.stopped, rfl, h.stopped_iff⟩
  | capture => exact congrArg Answer.captured h.snapshot_eq
  | reset => rfl

/-! ### Shared slots -/

/-- Slots and their holders. Every holder refers to one slot, and several may refer to the same one.
The log has the number of the slot with every event. -/
structure Sharing where
  slots : Nat → Slot
  slotOf : Nat → Nat
  log : List (Nat × Event)

namespace Sharing

inductive Use where
  /-- From now on the second holder refers to the slot of the first one. -/
  | share (holder other : Nat)
  | ask (holder : Nat) (op : Operation)

def Use.operation? : Use → Option Operation
  | share _ _ => none
  | ask _ op => some op

/-- Every holder has an empty slot of its own. -/
def fresh : Sharing :=
  ⟨fun _ => .empty, id, []⟩

def use (u : Sharing) : Use → Sharing
  | .share holder other =>
    { u with slotOf := Function.update u.slotOf other (u.slotOf holder) }
  | .ask holder op =>
    let a := u.slotOf holder
    let (s, answer) := (u.slots a).perform op
    ⟨Function.update u.slots a s, u.slotOf, (a, ⟨op, answer⟩) :: u.log⟩

def useAll (u : Sharing) (uses : List Use) : Sharing :=
  uses.foldl use u

/-- What has happened to one slot, through whichever holder. -/
def logOf (u : Sharing) (a : Nat) : List Event :=
  (u.log.filter fun entry => decide (entry.1 = a)).map Prod.snd

/-- The log says everything about every slot. -/
structure Kept (u : Sharing) : Prop where
  faithful : ∀ a, (u.slots a).Faithful (u.logOf a)
  right : ∀ a, Event.AllRight (u.logOf a)

theorem kept_fresh : fresh.Kept where
  faithful := fun _ => faithful_empty
  right := fun _ => trivial

theorem Kept.use {u : Sharing} (hu : u.Kept) (q : Use) : (u.use q).Kept := by
  cases q with
  | share holder other => exact ⟨hu.faithful, hu.right⟩
  | ask holder op =>
      let a := u.slotOf holder
      let e : Event := ⟨op, ((u.slots a).perform op).2⟩
      -- Only the slot of the holder changes, and only its log grows.
      have hsame : (u.use (.ask holder op)).logOf a = e :: u.logOf a := by
        simp [Sharing.use, logOf, a, e]
      have hother (b : Nat) (hb : b ≠ a) : (u.use (.ask holder op)).logOf b = u.logOf b := by
        simp [Sharing.use, logOf, a, Ne.symm hb]
      have hslot (b : Nat) (hb : b ≠ a) : (u.use (.ask holder op)).slots b = u.slots b :=
        Function.update_of_ne hb _ _
      constructor
      · intro b
        by_cases hb : b = a
        · subst hb
          rw [hsame]
          simpa [Sharing.use, a] using (hu.faithful a).perform op
        · rw [hother b hb, hslot b hb]
          exact hu.faithful b
      · intro b
        by_cases hb : b = a
        · subst hb
          rw [hsame]
          exact ⟨(hu.faithful a).right op, hu.right a⟩
        · rw [hother b hb]
          exact hu.right b

theorem Kept.useAll {u : Sharing} (hu : u.Kept) (uses : List Use) : (u.useAll uses).Kept := by
  induction uses generalizing u with
  | nil => exact hu
  | cons q uses ih => exact ih (hu.use q)

theorem map_operation_log_useAll (u : Sharing) (uses : List Use) :
    (u.useAll uses).log.map (fun entry => entry.2.operation) =
      (uses.filterMap Use.operation?).reverse ++ u.log.map fun entry => entry.2.operation := by
  induction uses generalizing u with
  | nil => rfl
  | cons q uses ih =>
      rw [useAll, List.foldl_cons]
      refine (ih (u.use q)).trans ?_
      cases q with
      | share holder other => rfl
      | ask holder op => simp [Sharing.use, Use.operation?]

/-- However holders share slots and whatever they ask for, in whatever order, a slot takes what is
published exactly if it has not been stopped or captured since it was last reset, it counts as
stopped exactly if it has been, and a capture yields what it has taken last since then. All captures
without a reset between them yield the same. -/
theorem frozen_until_reset (uses : List Use) (a : Nat) :
    let u := fresh.useAll uses
    u.log.map (fun entry => entry.2.operation) = (uses.filterMap Use.operation?).reverse ∧
      (∀ e before, e :: before <:+ u.logOf a →
        (∀ frame items now, e.operation = .publish frame items now →
          ∃ taken, e.answer = .flag taken ∧ (taken = true ↔ ¬ Event.Frozen before)) ∧
        (e.operation = .isStopped →
          ∃ stopped, e.answer = .flag stopped ∧ (stopped = true ↔ Event.Frozen before)) ∧
        (e.operation = .capture → e.answer = .captured (Event.latest before))) ∧
      ∀ e between d before, e :: (between ++ d :: before) <:+ u.logOf a →
        e.operation = .capture → d.operation = .capture →
        (∀ c ∈ between, c.operation ≠ .reset) → e.answer = d.answer := by
  intro u
  have hright : Event.AllRight (u.logOf a) := (kept_fresh.useAll uses).right a
  refine ⟨(map_operation_log_useAll fresh uses).trans (List.append_nil _), ?_, ?_⟩
  · intro e before hbefore
    obtain ⟨he, -⟩ := hright.of_suffix hbefore
    unfold Event.Right at he
    refine ⟨fun frame items now hop => ?_, fun hop => ?_, fun hop => ?_⟩ <;>
      · rw [hop] at he
        exact he
  · intro e between d before hlog he hd hbetween
    obtain ⟨hlater, hrest⟩ := hright.of_suffix hlog
    obtain ⟨hearlier, -⟩ := hrest.of_suffix (List.suffix_append between (d :: before))
    have hno : ∀ c ∈ between, c.operation.isReset = false :=
      fun c hc => Operation.isReset_eq_false (hbetween c hc)
    unfold Event.Right at hlater hearlier
    rw [he] at hlater
    rw [hd] at hearlier
    rw [hlater, hearlier, (Event.latest_append_of_capture hd hrest hno).2]

end Sharing

end TangibleBlocks.Slot
