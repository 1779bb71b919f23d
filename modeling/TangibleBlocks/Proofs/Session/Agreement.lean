import TangibleBlocks.Proofs.Execution.Repetition
import TangibleBlocks.Proofs.Session.Freezing
import TangibleBlocks.Session.Capture
import TangibleBlocks.Session.Watch

/-!
What is shown, what is published and what is executed. Frames are shown in order,
each with what is seen in it, and the last one that was shown is in the slot. The
only exception is a frame during which the display fails or freezes the slot: it is
shown and not published, and no frame is shown after it. Whatever is captured
afterwards, and however often, is the program of the frame in the slot.
-/

namespace TangibleBlocks

variable {δ ε σ : Type}

/-- What is seen in the frame with a number. Before the first frame, nothing has been seen. -/
def Detector.seen (detector : Detector) (frames : List Tensor) : Nat → List Detection
  | 0 => []
  | n + 1 => frames[n]?.elim [] detector.infer

theorem Detector.seen_append (detector : Detector) (front back : List Tensor) :
    detector.seen (front ++ back) front.length = detector.seen front front.length := by
  cases hn : front.length with
  | zero => rfl
  | succ n =>
      have hlt : n < front.length := by omega
      simp only [seen, List.getElem?_append_left hlt]

theorem Detector.seen_concat (detector : Detector) (front : List Tensor) (t : Tensor) :
    detector.seen (front ++ [t]) (front.length + 1) = detector.infer t := by
  simp [seen]

/-! ### A record of what is shown -/

/-- A frame that was shown, with the reply of the display. -/
structure Showing (ε : Type) where
  frame : Tensor
  items : List Detection
  stops : Bool
  cancels : Bool
  failure : Option ε

namespace Showing

/-- Whether the display has failed or frozen the slot. -/
def disturbs (e : Showing ε) : Bool :=
  e.stops || e.failure.isSome

theorem failure_eq_none {e : Showing ε} (h : e.disturbs = false) : e.failure = none := by
  simpa using (Bool.or_eq_false_iff.mp h).2

/-- Whether the display has failed or frozen the slot during the last frame of a record. -/
def lastDisturbs (log : List (Showing ε)) : Bool :=
  log.getLast?.any disturbs

theorem lastDisturbs_iff {log : List (Showing ε)} :
    lastDisturbs log = true ↔
      ∃ e ∈ log.getLast?, e.stops = true ∨ e.failure.isSome = true := by
  simp [lastDisturbs, disturbs, Option.any_eq_true]

theorem lastDisturbs_concat (log : List (Showing ε)) (e : Showing ε) :
    lastDisturbs (log ++ [e]) = e.disturbs := by
  simp [lastDisturbs]

theorem lastDisturbs_eq_false {log : List (Showing ε)} (h : ∀ e ∈ log, e.disturbs = false) :
    lastDisturbs log = false := by
  cases hlast : log.getLast? with
  | none => rw [lastDisturbs, hlast, Option.any_none]
  | some e => rw [lastDisturbs, hlast, Option.any_some, h e (List.mem_of_getLast? hlast)]

end Showing

namespace Display

/-- What is shown to a display, and what it replies. -/
def showing (d : Display δ ε) (s : δ) (t : Tensor) (items : List Detection) : Showing ε :=
  let reply := d.showFrame s t items
  ⟨t, items, reply.stops, reply.cancels, reply.failure⟩

/-- The display with a record of the frames that it is shown. -/
def recorded (d : Display δ ε) : Display (δ × List (Showing ε)) ε where
  showFrame s t items :=
    let reply := d.showFrame s.1 t items
    ⟨(reply.display, s.2 ++ [d.showing s.1 t items]), reply.stops, reply.cancels, reply.failure⟩
  showProgram s program report :=
    let reply := d.showProgram s.1 program report
    ⟨(reply.display, s.2), reply.stops, reply.cancels, reply.failure⟩

end Display

/-- The same without the record. -/
def Watching.unrecorded (s : Watching (δ × List (Showing ε))) : Watching δ :=
  ⟨s.display.1, s.slot, s.cancelled, s.frame⟩

namespace Watcher

variable {w : Watcher} {d : Display δ ε} {now : Timestamp} {t : Tensor}

/-- What a frame leads to while the slot is open. -/
theorem step_cases (w : Watcher) (d : Display δ ε) (now : Timestamp) (t : Tensor) {s : Watching δ}
    (hopen : s.slot.stopped = false) :
    let e := d.showing s.display t (w.detector.infer t)
    let shown := (w.present d t s).1
    (s.cancelled = true ∧ w.step d now t s = (s, .cancelled)) ∨
      (e.disturbs = true ∧
        ∃ v, v ≠ .goOn ∧ v.failure? = e.failure ∧ w.step d now t s = (shown, v)) ∨
      (e.disturbs = false ∧
        w.step d now t s =
          ({ shown with slot := ⟨w.detector.infer t, s.frame + 1, some now, false⟩ },
            if w.isLast (s.frame + 1) then .enough else .goOn)) := by
  intro e shown
  cases hcancelled : s.cancelled with
  | true => exact .inl ⟨rfl, by simp [step, hcancelled]⟩
  | false =>
      refine .inr ?_
      cases hfailure : (d.showFrame s.display t (w.detector.infer t)).failure with
      | some failure =>
          refine .inl ⟨?_, .failed failure, nofun, hfailure.symm, ?_⟩
          · simp [e, Display.showing, Showing.disturbs, hfailure]
          · simp [step, present, hcancelled, hopen, hfailure, shown]
      | none =>
          cases hstops : (d.showFrame s.display t (w.detector.infer t)).stops with
          | true =>
              refine .inl ⟨?_, .refused, nofun, hfailure.symm, ?_⟩
              · simp [e, Display.showing, Showing.disturbs, hstops]
              · simp [step, present, hcancelled, hopen, hfailure, hstops, Slot.publish, Slot.stop,
                  shown]
          | false =>
              refine .inr ⟨?_, ?_⟩
              · simp [e, Display.showing, Showing.disturbs, hfailure, hstops]
              · simp [step, present, hcancelled, hopen, hfailure, hstops, Slot.publish, shown]

theorem watch_of_goOn {s s' : Watching δ} (h : w.step d now t s = (s', .goOn))
    (rest : List Tensor) : w.watch d now (t :: rest) s = w.watch d now rest s' := by
  rw [watch, h]

theorem watch_of_end {s s' : Watching δ} {v : Verdict ε} (h : w.step d now t s = (s', v))
    (hv : v ≠ .goOn) (rest : List Tensor) :
    w.watch d now (t :: rest) s = (s', v.failure?) := by
  rw [watch, h]
  cases v with
  | goOn => exact absurd rfl hv
  | _ => rfl

theorem unrecorded_step (w : Watcher) (d : Display δ ε) (now : Timestamp) (t : Tensor)
    (s : Watching (δ × List (Showing ε))) :
    w.step d now t s.unrecorded =
      ((w.step d.recorded now t s).1.unrecorded, (w.step d.recorded now t s).2) := by
  unfold step Watching.unrecorded
  split
  · rfl
  · split
    · rfl
    · simp only [present, Display.recorded]
      cases (d.showFrame s.display.1 t (w.detector.infer t)).failure with
      | some e => rfl
      | none => rfl

/-- A record of what is shown changes nothing about watching. -/
theorem unrecorded_watch (w : Watcher) (d : Display δ ε) (now : Timestamp) (frames : List Tensor)
    (s : Watching (δ × List (Showing ε))) :
    w.watch d now frames s.unrecorded =
      ((w.watch d.recorded now frames s).1.unrecorded, (w.watch d.recorded now frames s).2) := by
  induction frames generalizing s with
  | nil => rfl
  | cons t rest ih =>
      have hstep := w.unrecorded_step d now t s
      rcases hrecorded : w.step d.recorded now t s with ⟨s', v⟩
      rw [hrecorded] at hstep
      cases v with
      | goOn => rw [watch_of_goOn hstep, watch_of_goOn hrecorded, ih]
      | _ => rw [watch_of_end hstep nofun, watch_of_end hrecorded nofun]

/-! ### Frames and the slot -/

/-- A record of some frames, each shown with what is seen in it. -/
structure Shows (w : Watcher) (log : List (Showing ε)) (frames : List Tensor) : Prop where
  frames : log.map Showing.frame = frames
  items : ∀ e ∈ log, e.items = w.detector.infer e.frame

theorem Shows.length_eq {log : List (Showing ε)} {frames : List Tensor} (h : w.Shows log frames) :
    log.length = frames.length := by
  rw [← h.frames, List.length_map]

theorem Shows.concat {log : List (Showing ε)} {frames : List Tensor} (h : w.Shows log frames)
    (d : Display δ ε) (s : δ) (t : Tensor) :
    w.Shows (log ++ [d.showing s t (w.detector.infer t)]) (frames ++ [t]) where
  frames := by rw [List.map_append, h.frames]; rfl
  items := List.forall_mem_append.mpr ⟨h.items, List.forall_mem_singleton.mpr rfl⟩

/-- Between two frames: all of them so far have been shown, and the last one is in the slot. -/
structure UpToDate (w : Watcher) (done : List Tensor) (s : Watching (δ × List (Showing ε))) :
    Prop where
  shows : w.Shows s.display.2 done
  undisturbed : ∀ e ∈ s.display.2, e.disturbs = false
  frame : s.frame = done.length
  slotFrame : s.slot.frame = done.length
  slotItems : s.slot.items = w.detector.seen done done.length
  isOpen : s.slot.stopped = false

/-- At the end: what has been shown of some frames, and which of them is in the slot. -/
structure Agreement (w : Watcher) (frames : List Tensor) (s : Watching (δ × List (Showing ε)))
    (failure : Option ε) : Prop where
  shows : w.Shows s.display.2 (frames.take s.display.2.length)
  slotItems : s.slot.items = w.detector.seen frames s.slot.frame
  length_eq : s.display.2.length =
    s.slot.frame + (Showing.lastDisturbs s.display.2).toNat
  failure_eq : failure = s.display.2.getLast?.bind Showing.failure
  ends : s.display.2.length < frames.length →
    s.cancelled = true ∨ Showing.lastDisturbs s.display.2 = true ∨
      w.isLast s.display.2.length = true

section

variable {done : List Tensor} {s : Watching (δ × List (Showing ε))}

theorem upToDate_start (w : Watcher) (display : δ) (cancelled : Bool) :
    w.UpToDate [] (⟨(display, []), .empty, cancelled, 0⟩ : Watching (δ × List (Showing ε))) where
  shows := ⟨rfl, nofun⟩
  undisturbed := nofun
  frame := rfl
  slotFrame := rfl
  slotItems := rfl
  isOpen := rfl

/-- Watching may end between two frames. -/
theorem UpToDate.agreement (h : w.UpToDate done s) {rest : List Tensor}
    (hend : rest = [] ∨ s.cancelled = true ∨ w.isLast done.length = true) :
    w.Agreement (done ++ rest) s none := by
  refine ⟨?_, ?_, ?_, ?_, ?_⟩
  · rw [h.shows.length_eq, List.take_left]
    exact h.shows
  · rw [h.slotItems, h.slotFrame, Detector.seen_append]
  · rw [h.shows.length_eq, h.slotFrame, Showing.lastDisturbs_eq_false h.undisturbed]
    rfl
  · refine (Option.bind_eq_none_iff.mpr fun e he => ?_).symm
    exact Showing.failure_eq_none (h.undisturbed e (List.mem_of_getLast? he))
  · intro hlt
    rw [h.shows.length_eq] at hlt ⊢
    rcases hend with rfl | hcancelled | hlast
    · simp at hlt
    · exact .inl hcancelled
    · exact .inr (.inr hlast)

/-- Watching ends with a frame that is shown and not published. -/
theorem UpToDate.agreement_of_disturbs (h : w.UpToDate done s)
    (hdisturbs : (d.showing s.display.1 t (w.detector.infer t)).disturbs = true)
    (rest : List Tensor) :
    w.Agreement (done ++ t :: rest) (w.present d.recorded t s).1
      (d.showing s.display.1 t (w.detector.infer t)).failure := by
  have hlog : (w.present d.recorded t s).1.display.2 =
      s.display.2 ++ [d.showing s.display.1 t (w.detector.infer t)] := rfl
  have hslot : (w.present d.recorded t s).1.slot.frame = s.slot.frame ∧
      (w.present d.recorded t s).1.slot.items = s.slot.items := by
    rw [present]
    split <;> exact ⟨rfl, rfl⟩
  have hshows := h.shows.concat d s.display.1 t
  refine ⟨?_, ?_, ?_, ?_, ?_⟩
  · rw [hlog, hshows.length_eq, List.append_cons done t rest, List.take_left]
    exact hshows
  · rw [hslot.1, hslot.2, h.slotItems, h.slotFrame, Detector.seen_append]
  · rw [hlog, hslot.1, h.slotFrame, ← h.shows.length_eq, Showing.lastDisturbs_concat, hdisturbs]
    exact List.length_append
  · simp [hlog]
  · rw [hlog, Showing.lastDisturbs_concat]
    exact fun _ => .inr (.inl hdisturbs)

/-- A frame that is shown and published. -/
theorem UpToDate.published (h : w.UpToDate done s) (now : Timestamp)
    (hdisturbs : (d.showing s.display.1 t (w.detector.infer t)).disturbs = false) :
    w.UpToDate (done ++ [t])
      { (w.present d.recorded t s).1 with
        slot := ⟨w.detector.infer t, s.frame + 1, some now, false⟩ } := by
  have hlength : (done ++ [t]).length = s.frame + 1 := by
    rw [h.frame, List.length_append, List.length_singleton]
  refine ⟨h.shows.concat d s.display.1 t, ?_, hlength.symm, hlength.symm, ?_, rfl⟩
  · exact List.forall_mem_append.mpr ⟨h.undisturbed, List.forall_mem_singleton.mpr hdisturbs⟩
  · rw [hlength, h.frame, Detector.seen_concat]

/-- From between two frames on, watching ends in agreement. -/
theorem UpToDate.watch (h : w.UpToDate done s) (rest : List Tensor) :
    w.Agreement (done ++ rest) (w.watch d.recorded now rest s).1
      (w.watch d.recorded now rest s).2 := by
  induction rest generalizing done s with
  | nil => exact h.agreement (.inl rfl)
  | cons t rest ih =>
      obtain ⟨hcancelled, hstep⟩ | ⟨hdisturbs, v, hv, hfailure, hstep⟩ | ⟨hdisturbs, hstep⟩ :=
        w.step_cases d.recorded now t h.isOpen
      · rw [watch_of_end hstep nofun]
        exact h.agreement (.inr (.inl hcancelled))
      · rw [watch_of_end hstep hv, hfailure]
        exact h.agreement_of_disturbs hdisturbs rest
      · have hnext := h.published now hdisturbs
        rw [List.append_cons]
        split at hstep
        case isTrue hlast =>
          rw [watch_of_end hstep nofun]
          refine hnext.agreement (.inr (.inr ?_))
          rwa [← hnext.frame]
        case isFalse =>
          rw [watch_of_goOn hstep]
          exact ih hnext

end

end Watcher

/-! ### Captures -/

/-- Where no blocks are seen, there is nothing to execute. -/
theorem Compiler.compile_nil (k : Compiler) : k.compile [] = ⟨[]⟩ := by
  have hrows : Detection.rows [] k.lineTolerance = [] := by
    simp [Detection.rows, Detection.cut]
  rw [compile, lines, hrows]
  rfl

namespace Runner

/-- A capture, and one more after each batch of operations on the slot. The robot and the
surroundings are those that the capture before has left behind. -/
def captures (k : Runner σ) (slot : Slot) :
    List (List Slot.Operation) → Robot → σ → List (Captured σ)
  | [], r, s => [k.captureAndRun slot r s]
  | ops :: rest, r, s =>
    let done := k.captureAndRun slot r s
    done :: captures k (done.slot.performAll ops) rest done.progress.robot done.progress.state

/-- All captures without a reset between them execute the same program. -/
theorem captures_eq (k : Runner σ) (slot : Slot) {between : List (List Slot.Operation)}
    (hbetween : ∀ ops ∈ between, ∀ op ∈ ops, op.isReset = false) (r : Robot) (s : σ) :
    let program := k.compiler.compile slot.items
    k.captures slot between r s =
      (k.host.runs k.pace (List.replicate (between.length + 1) program) r s).map
        fun done => ⟨slot.stop, program, done⟩ := by
  intro program
  induction between generalizing slot r s with
  | nil => rfl
  | cons ops rest ih =>
      obtain ⟨hops, hrest⟩ := List.forall_mem_cons.mp hbetween
      have hfrozen : slot.stop.performAll ops = slot.stop := Slot.performAll_of_stopped rfl hops
      let done := k.captureAndRun slot r s
      have hnext := ih slot.stop hrest done.progress.robot done.progress.state
      calc k.captures slot (ops :: rest) r s
          = done :: k.captures (slot.stop.performAll ops) rest done.progress.robot
              done.progress.state := rfl
        _ = _ := by
            rw [hfrozen, hnext]
            rfl

end Runner

/-- Whatever the display replies and however many frames are wanted: the frames shown are the first
ones in order, each with what is seen in it, and the slot has the last one of them or the one before
it. It is the one before exactly if the display has failed or frozen the slot during the last one,
and watching fails exactly if the display has failed then. Frames are left over only if watching was
cancelled, if the last frame was not published or if enough have been shown. From then on every
capture executes the program of the frame in the slot. -/
theorem Watcher.shown_published_executed (w : Watcher) (d : Display δ ε) (now : Timestamp)
    (frames : List Tensor) (display : δ) (cancelled : Bool) (k : Runner σ) :
    let watched := w.watch d.recorded now frames ⟨(display, []), .empty, cancelled, 0⟩
    let log := watched.1.display.2
    let slot := watched.1.slot
    let program := k.compiler.compile (w.detector.seen frames slot.frame)
    w.watch d now frames ⟨display, .empty, cancelled, 0⟩ = (watched.1.unrecorded, watched.2) ∧
      log.map Showing.frame = frames.take log.length ∧
      (∀ e ∈ log, e.items = w.detector.infer e.frame) ∧
      slot.items = w.detector.seen frames slot.frame ∧
      (log.length = slot.frame ∨ log.length = slot.frame + 1) ∧
      (log.length = slot.frame + 1 ↔
        ∃ e ∈ log.getLast?, e.stops = true ∨ e.failure.isSome = true) ∧
      watched.2 = log.getLast?.bind Showing.failure ∧
      (log.length < frames.length → watched.1.cancelled = true ∨
        log.length = slot.frame + 1 ∨ w.isLast log.length = true) ∧
      (slot.frame = 0 → program = ⟨[]⟩) ∧
      ∀ between : List (List Slot.Operation), (∀ ops ∈ between, .reset ∉ ops) → ∀ r s,
        k.captures slot between r s =
          (k.host.runs k.pace (List.replicate (between.length + 1) program) r s).map
            fun done => ⟨slot.stop, program, done⟩ := by
  intro watched log slot program
  have h : w.Agreement frames watched.1 watched.2 :=
    (w.upToDate_start display cancelled).watch frames
  have hlength : log.length = slot.frame + (Showing.lastDisturbs log).toNat := h.length_eq
  have hbehind : log.length = slot.frame + 1 ↔ Showing.lastDisturbs log = true := by
    cases hlast : Showing.lastDisturbs log <;> simp [hlength, hlast]
  refine ⟨w.unrecorded_watch d now frames ⟨(display, []), .empty, cancelled, 0⟩,
    h.shows.frames, h.shows.items, h.slotItems, ?_,
    hbehind.trans Showing.lastDisturbs_iff, h.failure_eq, ?_, ?_, ?_⟩
  · have := (Showing.lastDisturbs log).toNat_le
    omega
  · rw [hbehind]
    exact h.ends
  · intro hzero
    have hnothing : w.detector.seen frames slot.frame = [] := by rw [hzero, Detector.seen]
    exact (congrArg k.compiler.compile hnothing).trans k.compiler.compile_nil
  · intro between hbetween r s
    have hno : ∀ ops ∈ between, ∀ op ∈ ops, op.isReset = false := fun ops hops op hop =>
      Slot.Operation.isReset_eq_false (ne_of_mem_of_not_mem hop (hbetween ops hops))
    have hprogram : k.compiler.compile slot.items = program :=
      congrArg k.compiler.compile h.slotItems
    rw [k.captures_eq slot hno r s, hprogram]

/-- The slot is frozen during the second of three frames: two are shown, and the first one stays in
the slot. -/
example :
    let d : Display Nat Unit :=
      ⟨fun n _ _ => ⟨n + 1, n == 1, false, none⟩, fun n _ _ => .ok n⟩
    let watched := Watcher.watch ⟨.standard, none⟩ d.recorded default
      [.empty, .empty, .empty] ⟨(0, []), .empty, false, 0⟩
    watched.1.display.2.length = 2 ∧ watched.1.slot.frame = 1 ∧ watched.2 = none := by
  decide +kernel

end TangibleBlocks
