import TangibleBlocks.Execution.Report
import TangibleBlocks.Robot.Data

/-!
Reports as data.
-/

namespace TangibleBlocks.Report

def toJson (r : Report) : Json :=
  .object [("commands_executed", .ofNat r.commandsExecuted),
    ("blocked_walks", .ofNat r.blockedWalks), ("voided_jumps", .ofNat r.voidedJumps),
    ("rejected_motions", .ofNat r.rejectedMotions), ("pickups", .ofNat r.pickUps),
    ("cancelled", .bool r.cancelled), ("motions", .array (r.motions.map Motion.toJson)),
    ("final_state", (r.finalState.map Robot.toJson).getD .null)]

end TangibleBlocks.Report
