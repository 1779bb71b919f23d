import TangibleBlocks.Main
import TangibleBlocks.Proofs.Detection.Thresholds
import TangibleBlocks.Proofs.Execution.Loops
import TangibleBlocks.Proofs.Program.Arrangement
import TangibleBlocks.Proofs.Program.Segments
import TangibleBlocks.Proofs.Execution.Readiness
import TangibleBlocks.Proofs.Robot.Requests
import TangibleBlocks.Proofs.Execution.Path
import TangibleBlocks.Proofs.Execution.Accounts
import TangibleBlocks.Proofs.Detection.Layouts
import TangibleBlocks.Proofs.Execution.Repetition
import TangibleBlocks.Proofs.Grid.Collecting
import TangibleBlocks.Proofs.Session.Agreement
import TangibleBlocks.Proofs.Program.Lines
import TangibleBlocks.Proofs.Program.Writing
import TangibleBlocks.Proofs.Program.Bounds
import TangibleBlocks.Proofs.Execution.Scenery
import TangibleBlocks.Proofs.Detection.Scores
import TangibleBlocks.Proofs.Robot.Walking
import TangibleBlocks.Proofs.Session.Breaking
import TangibleBlocks.Proofs.Session.Limits
import TangibleBlocks.Proofs.Detection.Survivors
import TangibleBlocks.Proofs.Robot.Jumping
import TangibleBlocks.Proofs.Robot.Refusals
import TangibleBlocks.Proofs.Detection.AnchorOrder
import TangibleBlocks.Proofs.Block.Numbering
import TangibleBlocks.Proofs.Program.LastBlocks
import TangibleBlocks.Proofs.Source.Shape
import TangibleBlocks.Proofs.Source.Directory
import TangibleBlocks.Proofs.Grid.Notation
import TangibleBlocks.Proofs.Source.Frames
import TangibleBlocks.Proofs.Sink.Records
import TangibleBlocks.Proofs.Program.Texts
import TangibleBlocks.Proofs.Detection.Reading
