import TangibleBlocks.Grid.World
import TangibleBlocks.Time

/-!
The surroundings in which a program is executed: a world, a clock to wait for,
and a switch that cancels the execution. Each of them may throw the switch while
it is being used; once thrown, it stays so.
-/

namespace TangibleBlocks

structure Host (σ : Type) extends World σ where
  wait : σ → Duration → σ
  cancelled : σ → Bool
  cancelled_collect : ∀ s c, cancelled s = true → cancelled (collect s c) = true
  cancelled_wait : ∀ s d, cancelled s = true → cancelled (wait s d) = true

namespace Host

/-- A world in which nobody waits and nothing is cancelled. -/
def ofWorld {σ : Type} (w : World σ) : Host σ where
  toWorld := w
  wait s _ := s
  cancelled _ := false
  cancelled_collect _ _ h := h
  cancelled_wait _ _ h := h

end Host

/-- The state of surroundings together with what has been asked of them. -/
structure Recording (σ : Type) where
  state : σ
  collected : Array Cell
  waits : Array Duration

namespace Host

/-- The same surroundings, keeping a record of every call. -/
def recorded {σ : Type} (h : Host σ) : Host (Recording σ) where
  passable r := h.passable r.state
  collect r c := { r with state := h.collect r.state c, collected := r.collected.push c }
  wait r d := { r with state := h.wait r.state d, waits := r.waits.push d }
  cancelled r := h.cancelled r.state
  cancelled_collect r c := h.cancelled_collect r.state c
  cancelled_wait r d := h.cancelled_wait r.state d

end Host

end TangibleBlocks
