import TangibleBlocks.Program.Data
import TangibleBlocks.Robot.Basic

/-!
Robots and motions as data. A duration is given in milliseconds and cut to a
machine word.
-/

namespace TangibleBlocks

namespace Cell

def toJson (c : Cell) : Json :=
  .array [.ofInt c.x.toInt, .ofInt c.y.toInt]

end Cell

namespace Motion

def Outcome.toJson : Outcome → Json
  | .completed => .string "Completed"
  | .partly n => .object [("Partial", .object [("entered", .ofNat n)])]
  | .voided => .string "Voided"
  | .rejected => .string "Rejected"

def toJson (m : Motion) : Json :=
  .object [("kind", .string m.kind.name), ("from", m.origin.toJson), ("to", m.target.toJson),
    ("outcome", m.outcome.toJson), ("duration", .ofNat (m.duration.milliseconds % UInt64.size))]

end Motion

namespace Robot

def toJson (r : Robot) : Json :=
  .object [("grid_x", .ofInt r.cell.x.toInt), ("grid_y", .ofInt r.cell.y.toInt),
    ("heading", r.heading.toJson), ("busy", .bool r.busy)]

end Robot

end TangibleBlocks
