import TangibleBlocks.Robot.Basic

/-!
The report of an execution. Reports of two stretches of work put together make
the report of both: the counts add up and the motions follow each other.
-/

namespace TangibleBlocks

structure Report where
  commandsExecuted : Nat
  blockedWalks : Nat
  voidedJumps : Nat
  rejectedMotions : Nat
  pickUps : Nat
  cancelled : Bool
  motions : List Motion
  finalState : Option Robot
  deriving DecidableEq

namespace Report

def empty : Report :=
  ⟨0, 0, 0, 0, 0, false, [], none⟩

instance : Inhabited Report := ⟨empty⟩

def append (a b : Report) : Report :=
  ⟨a.commandsExecuted + b.commandsExecuted, a.blockedWalks + b.blockedWalks,
    a.voidedJumps + b.voidedJumps, a.rejectedMotions + b.rejectedMotions, a.pickUps + b.pickUps,
    a.cancelled || b.cancelled, a.motions ++ b.motions, b.finalState <|> a.finalState⟩

instance : Append Report := ⟨append⟩

/-- The report of one motion. -/
def ofMotion (m : Motion) : Report :=
  { empty with
    motions := [m]
    blockedWalks :=
      match m.kind, m.outcome with
      | .walk, .partly _ => 1
      | _, _ => 0
    voidedJumps :=
      match m.kind, m.outcome with
      | .jump, .voided => 1
      | _, _ => 0
    rejectedMotions :=
      match m.outcome with
      | .rejected => 1
      | _ => 0 }

def ofPickUp : Report :=
  { empty with pickUps := 1 }

def ofCommand : Report :=
  { empty with commandsExecuted := 1 }

def ofCancelling : Report :=
  { empty with cancelled := true }

def ofEnd (r : Robot) : Report :=
  { empty with finalState := some r }

theorem append_def (a b : Report) : a ++ b = a.append b := rfl

@[simp] theorem empty_append (a : Report) : empty ++ a = a := by
  cases a with
  | mk _ _ _ _ _ _ _ f => cases f <;> simp [append_def, append, empty]

@[simp] theorem append_empty (a : Report) : a ++ empty = a := by
  simp [append_def, append, empty]

theorem append_assoc (a b c : Report) : a ++ b ++ c = a ++ (b ++ c) := by
  simp only [append_def, append, Nat.add_assoc, Bool.or_assoc, List.append_assoc]
  cases c.finalState <;> rfl

end Report

end TangibleBlocks
