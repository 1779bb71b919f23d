/-!
Going through a list with a step that may fail. What comes out is a fault exactly
if there is a first element at which the step fails. If it depends on the element
alone whether the step fails, there is no fault exactly if no element is at fault.
-/

namespace TangibleBlocks

variable {α σ ε : Type} {step : σ → α → Except ε σ} {s : σ} {fault : ε}

theorem foldlM_eq_error_iff {as : List α} :
    as.foldlM step s = .error fault ↔
      ∃ before a after t, as = before ++ a :: after ∧ before.foldlM step s = .ok t ∧
        step t a = .error fault := by
  induction as generalizing s with
  | nil => simp [pure, Except.pure]
  | cons a as ih =>
      cases ha : step s a with
      | error found =>
          rw [List.foldlM_cons, ha]
          constructor
          · intro h
            exact ⟨[], a, as, s, rfl, rfl, ha.trans h⟩
          · rintro ⟨before, b, after, t, hsplit, hbefore, hb⟩
            cases before with
            | nil =>
                obtain ⟨rfl, rfl⟩ := List.cons.inj hsplit
                obtain rfl : s = t := Except.ok.inj hbefore
                exact ha.symm.trans hb
            | cons c before =>
                obtain ⟨rfl, -⟩ := List.cons.inj hsplit
                rw [List.foldlM_cons, ha] at hbefore
                cases hbefore
      | ok next =>
          have hrest (rest : List α) : (a :: rest).foldlM step s = rest.foldlM step next := by
            rw [List.foldlM_cons, ha]
            rfl
          rw [hrest, ih]
          constructor
          · rintro ⟨before, b, after, t, rfl, hbefore, hb⟩
            exact ⟨a :: before, b, after, t, rfl, (hrest before).trans hbefore, hb⟩
          · rintro ⟨before, b, after, t, hsplit, hbefore, hb⟩
            cases before with
            | nil =>
                obtain ⟨rfl, -⟩ := List.cons.inj hsplit
                obtain rfl : s = t := Except.ok.inj hbefore
                rw [ha] at hb
                cases hb
            | cons c before =>
                obtain ⟨rfl, rfl⟩ := List.cons.inj hsplit
                rw [hrest] at hbefore
                exact ⟨before, b, after, t, rfl, hbefore, hb⟩

theorem bind_eq_ok_iff {β : Type} {x : Except ε α} {next : α → Except ε β} {b : β} :
    x >>= next = .ok b ↔ ∃ a, x = .ok a ∧ next a = .ok b := by
  cases x with
  | error found => exact iff_of_false nofun fun ⟨_, h, _⟩ => nomatch h
  | ok a =>
      constructor
      · exact fun h => ⟨a, rfl, h⟩
      · rintro ⟨a', ha', h⟩
        obtain rfl : a = a' := Except.ok.inj ha'
        exact h

theorem foldlM_concat_eq_ok_iff {as : List α} {a : α} {t : σ} :
    (as ++ [a]).foldlM step s = .ok t ↔
      ∃ u, as.foldlM step s = .ok u ∧ step u a = .ok t := by
  rw [List.foldlM_append, bind_eq_ok_iff]
  refine exists_congr fun u => and_congr_right fun _ => ?_
  rw [List.foldlM_cons]
  cases step u a <;> rfl

theorem foldlM_eq_ok_iff {right : α → Prop} {next : σ → α → σ}
    (hstep : ∀ s a t, step s a = .ok t ↔ right a ∧ t = next s a) {as : List α} {t : σ} :
    as.foldlM step s = .ok t ↔ (∀ a ∈ as, right a) ∧ t = as.foldl next s := by
  induction as generalizing s with
  | nil => simp [pure, Except.pure, eq_comm]
  | cons a as ih =>
      rw [List.foldlM_cons, List.forall_mem_cons, List.foldl_cons]
      cases ha : step s a with
      | error found =>
          refine iff_of_false nofun ?_
          rintro ⟨⟨hright, -⟩, -⟩
          have hok : step s a = .ok (next s a) := (hstep s a _).mpr ⟨hright, rfl⟩
          rw [ha] at hok
          cases hok
      | ok u =>
          obtain ⟨hright, rfl⟩ := (hstep s a u).mp ha
          rw [and_iff_right hright]
          exact ih

/-- Where nothing has failed, no step has. -/
theorem exists_of_foldlM_eq_ok {as : List α} {t : σ} (h : as.foldlM step s = .ok t) :
    ∀ a ∈ as, ∃ u u', step u a = .ok u' := by
  induction as generalizing s with
  | nil => exact nofun
  | cons a as ih =>
      rw [List.foldlM_cons, bind_eq_ok_iff] at h
      obtain ⟨u, hu, hrest⟩ := h
      exact List.forall_mem_cons.mpr ⟨⟨s, u, hu⟩, ih hrest⟩

theorem foldlM_eq_ok {next : σ → α → σ} {as : List α}
    (hstep : ∀ s, ∀ a ∈ as, step s a = .ok (next s a)) (s : σ) :
    as.foldlM step s = .ok (as.foldl next s) := by
  induction as generalizing s with
  | nil => rfl
  | cons a as ih =>
      rw [List.foldlM_cons, hstep s a List.mem_cons_self, List.foldl_cons]
      exact ih (fun s b hb => hstep s b (List.mem_cons_of_mem a hb)) (next s a)

end TangibleBlocks
