import TangibleBlocks.Json.Basic
import TangibleBlocks.Program.Basic

/-!
Programs as data.
-/

namespace TangibleBlocks

namespace Action

def keyword : Action → String
  | walk => "walk"
  | jump => "jump"
  | pickUp => "pickup"
  | stay => "none"

end Action

namespace Heading

def toJson (h : Heading) : Json :=
  .string h.name

end Heading

namespace Command

def members (c : Command) : List (String × Json) :=
  [("action", .string c.action.keyword),
    ("direction", (c.direction.map Heading.toJson).getD .null), ("count", .ofNat c.count)]

def toJson (c : Command) : Json :=
  .object c.members

end Command

namespace Node

def toJson : Node → Json
  | command c => .object (("kind", .string "command") :: c.members)
  | loop n body =>
    .object [("kind", .string "loop"), ("repeat_count", .ofNat n),
      ("body", .array (body.map Command.toJson))]

end Node

namespace Program

def toJson (p : Program) : Json :=
  .object [("nodes", .array (p.nodes.map Node.toJson))]

end Program

end TangibleBlocks
