import TangibleBlocks.Proofs.Session.Agreement

/-!
How many frames are watched. As long as the display neither fails nor freezes the
slot nor cancels, every frame that is taken up is shown and published under its
number, and watching ends with the last frame or with the one that reaches the
limit. The limit is asked for behind a frame and not in front of it. So it is an
upper bound unless it is zero: then one frame is watched, as with a limit of one.
-/

namespace TangibleBlocks

variable {δ ε : Type}

namespace Display

/-- A display that never fails, freezes the slot or cancels. -/
def Calm (d : Display δ ε) : Prop :=
  ∀ s t items, (d.showFrame s t items).stops = false ∧
    (d.showFrame s t items).cancels = false ∧ (d.showFrame s t items).failure = none

variable {d : Display δ ε}

theorem Calm.recorded (h : d.Calm) : d.recorded.Calm :=
  fun s t items => h s.1 t items

theorem Calm.disturbs_eq_false (h : d.Calm) (s : δ) (t : Tensor) (items : List Detection) :
    (d.showing s t items).disturbs = false := by
  obtain ⟨hstops, -, hfailure⟩ := h s t items
  simp [showing, Showing.disturbs, hstops, hfailure]

/-- A display that counts the frames that it is shown. -/
def counting : Display Nat Unit where
  showFrame n _ _ := .ok (n + 1)
  showProgram n _ _ := .ok n

theorem calm_counting : counting.Calm :=
  fun _ _ _ => ⟨rfl, rfl, rfl⟩

end Display

/-- What has been shown, without the replies. -/
def Showing.contents (log : List (Showing ε)) : List (Tensor × List Detection) :=
  log.map fun e => (e.frame, e.items)

namespace Watcher

variable {w : Watcher} {d : Display δ ε} {now : Timestamp}

/-- The session behind each of the frames that are taken up. -/
def trail (w : Watcher) (d : Display δ ε) (now : Timestamp) :
    List Tensor → Watching δ → List (Watching δ)
  | [], _ => []
  | t :: rest, s =>
    match w.step d now t s with
    | (s', .goOn) => s' :: trail w d now rest s'
    | (s', _) => [s']

theorem trail_of_goOn {t : Tensor} {s s' : Watching δ} (h : w.step d now t s = (s', .goOn))
    (rest : List Tensor) : w.trail d now (t :: rest) s = s' :: w.trail d now rest s' := by
  rw [trail, h]

theorem trail_of_end {t : Tensor} {s s' : Watching δ} {v : Verdict ε}
    (h : w.step d now t s = (s', v)) (hv : v ≠ .goOn) (rest : List Tensor) :
    w.trail d now (t :: rest) s = [s'] := by
  rw [trail, h]
  cases v with
  | goOn => exact absurd rfl hv
  | _ => rfl

/-- Watching leaves the session as it is behind the last frame that is taken up. -/
theorem watch_eq_getLastD_trail (w : Watcher) (d : Display δ ε) (now : Timestamp)
    (frames : List Tensor) (s : Watching δ) :
    (w.watch d now frames s).1 = (w.trail d now frames s).getLastD s := by
  induction frames generalizing s with
  | nil => rfl
  | cons t rest ih =>
      rcases hstep : w.step d now t s with ⟨s', v⟩
      cases v with
      | goOn => rw [watch_of_goOn hstep, trail_of_goOn hstep, List.getLastD_cons, ih]
      | _ => rw [watch_of_end hstep nofun, trail_of_end hstep nofun]; rfl

/-- How many of the available frames are watched, if some have been seen before. -/
def reach (w : Watcher) (seen available : Nat) : Nat :=
  w.limit.elim available fun n => min (max 1 (n - seen)) available

theorem reach_le (w : Watcher) (seen available : Nat) : w.reach seen available ≤ available := by
  unfold reach
  cases w.limit with
  | none => exact Nat.le_refl available
  | some n => exact Nat.min_le_right ..

theorem reach_eq_zero_iff (w : Watcher) (seen available : Nat) :
    w.reach seen available = 0 ↔ available = 0 := by
  unfold reach
  cases w.limit with
  | none => rfl
  | some n => simp only [Option.elim_some]; omega

theorem reach_succ (w : Watcher) (seen available : Nat) :
    w.reach seen (available + 1) =
      if w.isLast (seen + 1) then 1 else w.reach (seen + 1) available + 1 := by
  unfold reach isLast
  cases w.limit with
  | none => rfl
  | some n =>
      simp only [Option.elim_some, decide_eq_true_eq]
      split <;> omega

/-- A frame that is shown on a calm display is published, too. -/
theorem step_of_calm (hcalm : d.Calm) (now : Timestamp) (t : Tensor)
    {s : Watching (δ × List (Showing ε))} (hopen : s.slot.stopped = false)
    (hgoing : s.cancelled = false) :
    ∃ s', w.step d.recorded now t s =
        (s', if w.isLast (s.frame + 1) then .enough else .goOn) ∧
      Showing.contents s'.display.2 =
        Showing.contents s.display.2 ++ [(t, w.detector.infer t)] ∧
      s'.slot = ⟨w.detector.infer t, s.frame + 1, some now, false⟩ ∧
      s'.cancelled = false ∧ s'.frame = s.frame + 1 := by
  obtain ⟨hcancelled, -⟩ | ⟨hdisturbs, -⟩ | ⟨-, hstep⟩ := w.step_cases d.recorded now t hopen
  · rw [hgoing] at hcancelled
    cases hcancelled
  · rw [hcalm.recorded.disturbs_eq_false] at hdisturbs
    cases hdisturbs
  · obtain ⟨-, hcancels, -⟩ := hcalm s.display.1 t (w.detector.infer t)
    refine ⟨_, hstep, ?_, rfl, ?_, rfl⟩
    · simp [Showing.contents, present, Display.recorded, Display.showing]
    · simp [present, Display.recorded, hgoing, hcancels]

/-- What becomes of a session when some frames are taken up: they are shown and published, one after
the other and under their numbers. -/
structure Completes (w : Watcher) (now : Timestamp) (taken : List Tensor)
    (s : Watching (δ × List (Showing ε))) (trail : List (Watching (δ × List (Showing ε)))) : Prop
    where
  shown : Showing.contents (trail.getLastD s).display.2 =
    Showing.contents s.display.2 ++ taken.map fun t => (t, w.detector.infer t)
  published : trail.map Watching.slot =
    taken.mapIdx fun i t => ⟨w.detector.infer t, s.frame + i + 1, some now, false⟩

/-- The slot has the number of the last frame that was taken up. -/
theorem Completes.frame_eq {taken : List Tensor} {s : Watching (δ × List (Showing ε))}
    {trail : List (Watching (δ × List (Showing ε)))} (h : w.Completes now taken s trail) :
    (trail.getLastD s).slot.frame =
      if taken = [] then s.slot.frame else s.frame + taken.length := by
  have hlast : (trail.getLastD s).slot = (trail.map Watching.slot).getLastD s.slot := by
    simp [List.getLastD_eq_getLast?, Option.getD_map]
  rw [hlast, h.published, List.getLastD_eq_getLast?, List.getLast?_mapIdx]
  cases hend : taken.getLast? with
  | none =>
      rw [List.getLast?_eq_none_iff] at hend
      simp [hend]
  | some t =>
      have hne : taken ≠ [] := List.ne_nil_of_mem (List.mem_of_getLast? hend)
      have hpos := List.length_pos_iff.mpr hne
      simp only [Option.map_some, Option.getD_some, if_neg hne]
      omega

/-- On a calm display the frames in reach are taken up, and no others. -/
theorem completes_trail (hcalm : d.Calm) (now : Timestamp) (frames : List Tensor)
    {s : Watching (δ × List (Showing ε))} (hopen : s.slot.stopped = false)
    (hgoing : s.cancelled = false) :
    (w.watch d.recorded now frames s).2 = none ∧
      w.Completes now (frames.take (w.reach s.frame frames.length)) s
        (w.trail d.recorded now frames s) := by
  -- Behind a frame the slot is open and the session goes on, so the rest is a case of the same.
  induction frames generalizing s with
  | nil =>
      rw [List.take_nil]
      exact ⟨rfl, (List.append_nil _).symm, rfl⟩
  | cons t rest ih =>
      obtain ⟨s', hstep, hshown, hslot, hgoing', hframe⟩ := step_of_calm hcalm now t hopen hgoing
      rw [List.length_cons, reach_succ]
      cases hlast : w.isLast (s.frame + 1) with
      | true =>
          rw [hlast] at hstep
          rw [watch_of_end hstep nofun, trail_of_end hstep nofun]
          exact ⟨rfl, hshown, by simp [hslot]⟩
      | false =>
          rw [hlast] at hstep
          rw [watch_of_goOn hstep, trail_of_goOn hstep]
          obtain ⟨hfailure, hrest⟩ := ih (by rw [hslot]) hgoing'
          refine ⟨hfailure, ?_, ?_⟩
          · rw [List.getLastD_cons, hrest.shown, hshown, hframe]
            simp
          · have hnumbers (i : Nat) : s.frame + 1 + i + 1 = s.frame + (i + 1) + 1 := by omega
            simp [hrest.published, hslot, hframe, hnumbers, List.mapIdx_cons]

end Watcher

end TangibleBlocks
