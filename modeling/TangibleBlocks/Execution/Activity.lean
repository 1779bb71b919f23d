import TangibleBlocks.Execution.Host
import TangibleBlocks.Execution.Report

/-!
Activities of a robot in its surroundings. An activity starts from a robot and a
state of the surroundings and leaves both behind with a report. Activities can
be done one after the other.
-/

namespace TangibleBlocks

/-- What an activity leaves behind. -/
structure Progress (σ : Type) where
  robot : Robot
  state : σ
  report : Report

abbrev Activity (σ : Type) : Type :=
  Robot → σ → Progress σ

namespace Activity

variable {σ : Type}

/-- Doing nothing. -/
def skip : Activity σ :=
  fun r s => ⟨r, s, .empty⟩

/-- Doing nothing but report. -/
def note (entry : Robot → Report) : Activity σ :=
  fun r s => ⟨r, s, entry r⟩

/-- One activity after the other. -/
def andThen (a b : Activity σ) : Activity σ :=
  fun r s =>
    let first := a r s
    let second := b first.robot first.state
    { second with report := first.report ++ second.report }

/-- All activities of a list, one after the other. -/
def sequence : List (Activity σ) → Activity σ
  | [], r, s => skip r s
  | a :: rest, r, s => a.andThen (sequence rest) r s

/-- The activity, unless the execution has been cancelled. -/
def unlessCancelled (h : Host σ) (a : Activity σ) : Activity σ :=
  fun r s => if h.cancelled s then ⟨r, s, .ofCancelling⟩ else a r s

@[simp] theorem skip_andThen (a : Activity σ) : skip.andThen a = a := by
  funext r s
  simp [andThen, skip]

@[simp] theorem andThen_skip (a : Activity σ) : a.andThen skip = a := by
  funext r s
  simp [andThen, skip]

theorem andThen_assoc (a b c : Activity σ) :
    (a.andThen b).andThen c = a.andThen (b.andThen c) := by
  funext r s
  simp [andThen, Report.append_assoc]

@[simp] theorem sequence_nil : sequence ([] : List (Activity σ)) = skip := rfl

@[simp] theorem sequence_cons (a : Activity σ) (rest : List (Activity σ)) :
    sequence (a :: rest) = a.andThen (sequence rest) := rfl

theorem sequence_append (as bs : List (Activity σ)) :
    sequence (as ++ bs) = (sequence as).andThen (sequence bs) := by
  induction as with
  | nil => rw [sequence_nil, skip_andThen, List.nil_append]
  | cons a as ih => rw [List.cons_append, sequence_cons, ih, sequence_cons, andThen_assoc]

end Activity

end TangibleBlocks
