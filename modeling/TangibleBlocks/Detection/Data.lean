import TangibleBlocks.Detection.Basic
import TangibleBlocks.Json.Basic

/-!
Detections as data.
-/

namespace TangibleBlocks.Detection

def toJson (d : Detection) : Json :=
  .object [("center_x", .ofBinary32 d.centerX), ("center_y", .ofBinary32 d.centerY),
    ("width", .ofBinary32 d.width), ("height", .ofBinary32 d.height),
    ("score", .ofBinary32 d.score), ("class_id", .ofNat d.classId),
    ("label", .string d.block.label)]

/-- The blocks seen in one tensor. -/
def resultToJson (items : List Detection) : Json :=
  .object [("items", .array (items.map toJson))]

end TangibleBlocks.Detection
