import Mathlib.Data.Finset.Dedup
import Mathlib.Data.Finset.Card
import TangibleBlocks.Grid.Level
import TangibleBlocks.Proofs.Execution.Repetition

/-!
What is collected in a level. A thing is taken when the robot looks for something
on its cell for the first time, and on no other occasion. So the cells on which
something has been looked for determine what has been collected, in its order,
and what is left; together that is what has been there from the beginning. This
holds for any number of runs, since a run does nothing to a level but look for
things.
-/

namespace TangibleBlocks

/-! ### First occurrences -/

section FirstOccurrences

variable {α : Type} [BEq α] [LawfulBEq α]

/-- A new element at the end is a first occurrence exactly if it has not occurred before. -/
theorem eraseDups_append_of_mem {xs : List α} {x : α} (hx : x ∈ xs) :
    (xs ++ [x]).eraseDups = xs.eraseDups := by
  rw [List.eraseDups_append]
  simp [List.removeAll, hx]

theorem eraseDups_append_of_notMem {xs : List α} {x : α} (hx : x ∉ xs) :
    (xs ++ [x]).eraseDups = xs.eraseDups ++ [x] := by
  rw [List.eraseDups_append]
  simp [List.removeAll, hx, List.eraseDups_cons]

theorem nodup_eraseDups (xs : List α) : xs.eraseDups.Nodup := by
  induction xs using List.reverseRecOn with
  | nil => exact List.nodup_nil
  | append_singleton xs x ih =>
      by_cases hx : x ∈ xs
      · rwa [eraseDups_append_of_mem hx]
      · rw [eraseDups_append_of_notMem hx, ← List.concat_eq_append]
        exact ih.concat (by simpa using hx)

end FirstOccurrences

namespace Level

/-! ### One level -/

/-- The calls are the cells on which something has been looked for in a level with the given things,
the first call in front. What has been collected are the first calls for each thing, and what is
left are the things for which there was no call. -/
structure Accounted (items calls : List Cell) (l : Level) : Prop where
  collected : l.collected = (calls.filter fun c => decide (c ∈ items)).eraseDups
  left : l.items = items.eraseDups.filter fun c => decide (c ∉ calls)

variable {items calls : List Cell} {l : Level}

theorem accounted_build (width height : Int32) (blocked items : List Cell) (goal : Option Cell) :
    Accounted items [] (build width height blocked items goal) where
  collected := rfl
  left := by simp [build]

theorem Accounted.mem_items_iff (h : Accounted items calls l) {c : Cell} :
    c ∈ l.items ↔ c ∈ items ∧ c ∉ calls := by
  simp [h.left]

theorem Accounted.mem_collected_iff (h : Accounted items calls l) {c : Cell} :
    c ∈ l.collected ↔ c ∈ items ∧ c ∈ calls := by
  rw [h.collected, List.mem_eraseDups, List.mem_filter, decide_eq_true_eq, and_comm]

theorem Accounted.nodup_items (h : Accounted items calls l) : l.items.Nodup := by
  rw [h.left]
  exact (nodup_eraseDups items).filter _

theorem Accounted.nodup_collected (h : Accounted items calls l) : l.collected.Nodup := by
  rw [h.collected]
  exact nodup_eraseDups _

/-- The first call for a thing takes it. -/
theorem Accounted.first (h : Accounted items calls l) {c : Cell} (hitem : c ∈ items)
    (hcall : c ∉ calls) :
    Accounted items (calls ++ [c])
      { l with items := l.items.erase c, collected := l.collected ++ [c] } where
  collected := by
    have hnew : c ∉ calls.filter fun d => decide (d ∈ items) := by simp [hcall]
    rw [List.filter_append, List.filter_cons_of_pos (by simpa using hitem), List.filter_nil,
      eraseDups_append_of_notMem hnew, h.collected]
  left := by
    rw [h.nodup_items.erase_eq_filter, h.left, List.filter_filter]
    refine List.filter_congr fun d _ => ?_
    by_cases hd : d = c <;> simp [hd]

/-- All other calls take nothing. -/
theorem Accounted.further (h : Accounted items calls l) {c : Cell} (hc : c ∈ items → c ∈ calls) :
    Accounted items (calls ++ [c]) l where
  collected := by
    rw [List.filter_append, h.collected]
    by_cases hitem : c ∈ items
    · have hold : c ∈ calls.filter fun d => decide (d ∈ items) := by simp [hitem, hc hitem]
      rw [List.filter_cons_of_pos (by simpa using hitem), List.filter_nil,
        eraseDups_append_of_mem hold]
    · rw [List.filter_cons_of_neg (by simpa using hitem), List.filter_nil, List.append_nil]
  left := by
    rw [h.left]
    refine List.filter_congr fun d hd => ?_
    have hitem : d ∈ items := List.mem_eraseDups.mp hd
    by_cases hdc : d = c
    · subst hdc
      simp [hc hitem]
    · simp [hdc]

theorem Accounted.collect (h : Accounted items calls l) (c : Cell) :
    Accounted items (calls ++ [c]) (l.collect c) := by
  unfold Level.collect
  split
  case isTrue hc =>
      obtain ⟨hitem, hcall⟩ := h.mem_items_iff.mp hc
      exact h.first hitem hcall
  case isFalse hc =>
      refine h.further fun hitem => ?_
      by_contra hcall
      exact hc (h.mem_items_iff.mpr ⟨hitem, hcall⟩)

/-- What has been collected and what is left make up all the things. -/
theorem Accounted.length_add_length (h : Accounted items calls l) :
    l.items.length + l.collected.length = items.toFinset.card := by
  have hleft : l.items.toFinset = items.toFinset \ calls.toFinset := by
    ext c
    simp [h.mem_items_iff]
  have hcollected : l.collected.toFinset = items.toFinset ∩ calls.toFinset := by
    ext c
    simp [h.mem_collected_iff]
  rw [← List.toFinset_card_of_nodup h.nodup_items,
    ← List.toFinset_card_of_nodup h.nodup_collected, hleft, hcollected,
    Finset.card_sdiff_add_card_inter]

theorem passable_foldl_collect (cs : List Cell) (l : Level) (c : Cell) :
    (cs.foldl collect l).passable c = l.passable c := by
  induction cs generalizing l with
  | nil => rfl
  | cons d cs ih => rw [List.foldl_cons, ih, passable_collect]

end Level

/-- Surroundings whose world is a level, whatever else belongs to them. -/
structure Host.OnLevel {σ : Type} (h : Host σ) (level : σ → Level) : Prop where
  passable : ∀ s c, h.passable s c = (level s).passable c
  collect : ∀ s c, level (h.collect s c) = (level s).collect c
  wait : ∀ s d, level (h.wait s d) = level s

namespace Host

variable {σ : Type} {h : Host σ} {level : σ → Level}

/-- The record of the calls accounts for the level. -/
theorem OnLevel.invariant (hl : h.OnLevel level) (start : Level) (items : List Cell) :
    h.recorded.Invariant fun t =>
      level t.state = t.collected.toList.foldl Level.collect start ∧
        Level.Accounted items t.collected.toList (level t.state) where
  collect := by
    rintro t c ⟨hlevel, haccounted⟩
    have hcollect : level (h.collect t.state c) = (level t.state).collect c := hl.collect t.state c
    simp only [recorded, hcollect, Array.toList_push, List.foldl_append, List.foldl_cons,
      List.foldl_nil]
    exact ⟨by rw [hlevel], haccounted.collect c⟩
  wait := by
    rintro t d ht
    simp only [recorded, hl.wait]
    exact ht

/-- After every run in a level, what has been collected are the cells with things on them, each of
them once, in the order in which something was first looked for there, in this run or in one before
it. What remains are the other things. Looking for something never changes which cells are passable.
-/
theorem runs_conserve_items (hl : h.OnLevel level) (p : Pace) (width height : Int32)
    (blocked items : List Cell) (goal : Option Cell) (programs : List Program) (r : Robot) (s : σ)
    (hs : level s = .build width height blocked items goal) :
    let runs := h.recorded.runs p programs r ⟨s, #[], #[]⟩
    runs.map Progress.unrecorded = h.runs p programs r s ∧
      (∀ done ∈ runs,
        let calls := done.state.collected.toList
        let outcome := (level done.state.state).outcome done.robot.cell
        level done.state.state = calls.foldl Level.collect (level s) ∧
          outcome.collected.Nodup ∧
          outcome.collected = (calls.filter fun c => decide (c ∈ items)).eraseDups ∧
          outcome.collected.length ≤ items.toFinset.card ∧
          outcome.remaining = items.toFinset.card - outcome.collected.length ∧
          ∀ before, before <+: calls → ∀ c,
            (before.foldl Level.collect (level s)).passable c = (level s).passable c) ∧
      ∀ t c d, h.passable (h.collect t c) d = h.passable t d := by
  intro runs
  refine ⟨h.unrecorded_runs p programs r _, ?_, ?_⟩
  · intro done hdone calls outcome
    have hstart : Level.Accounted items [] (level s) := by
      rw [hs]
      exact Level.accounted_build width height blocked items goal
    obtain ⟨hlevel, haccounted⟩ :=
      (hl.invariant (level s) items).runs programs r ⟨rfl, hstart⟩ done hdone
    have htotal : outcome.remaining + outcome.collected.length = items.toFinset.card :=
      haccounted.length_add_length
    exact ⟨hlevel, haccounted.nodup_collected, haccounted.collected, by omega, by omega,
      fun before _ c => Level.passable_foldl_collect before (level s) c⟩
  · intro t c d
    rw [hl.passable, hl.passable, hl.collect, Level.passable_collect]

/-- Two runs of one program in a level where a thing has been named twice and another one is out of
the robot's way. -/
theorem runs_conserve_items_level :
    let h := Host.ofWorld Level.world
    let items : List Cell := [⟨1, 0⟩, ⟨2, 2⟩, ⟨1, 0⟩]
    let start := Level.build 4 3 [⟨3, 0⟩] items none
    let program : Program :=
      ⟨[.loop 2 [(Command.once .walk).facing .right, .once .pickUp],
        .command ((Command.once .walk).facing .left)]⟩
    let runs := h.recorded.runs .usual [program, program] (.idle ⟨0, 0⟩ .up) ⟨start, #[], #[]⟩
    h.OnLevel id ∧ id start = .build 4 3 [⟨3, 0⟩] items none ∧
      (runs.map fun done => done.state.collected.size) = [5, 9] ∧
      ∀ done ∈ runs, done.state.state.collected =
        (done.state.collected.toList.filter fun c => decide (c ∈ items)).eraseDups := by
  intro h items start program runs
  have hl : h.OnLevel id := ⟨fun _ _ => rfl, fun _ _ => rfl, fun _ _ => rfl⟩
  obtain ⟨-, hruns, -⟩ := runs_conserve_items hl .usual 4 3 [⟨3, 0⟩] items none [program, program]
    (.idle ⟨0, 0⟩ .up) start rfl
  exact ⟨hl, rfl, by decide, fun done hdone => (hruns done hdone).2.2.1⟩

end Host

end TangibleBlocks
