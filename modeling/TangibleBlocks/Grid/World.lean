import TangibleBlocks.Grid.Cell

/-!
What a robot needs to know of the world around it: which cells it may enter, and
what becomes of the world when it looks for something to collect.
-/

namespace TangibleBlocks

/-- A world with states `σ`. Asking whether a cell is passable changes nothing. -/
structure World (σ : Type) where
  passable : σ → Cell → Bool
  collect : σ → Cell → σ

namespace World

/-- The neighbour of a cell, if it can be entered. -/
def enter? {σ : Type} (w : World σ) (s : σ) (c : Cell) (h : Heading) : Option Cell :=
  (c.next? h).filter fun d => w.passable s d

end World

end TangibleBlocks
