import TangibleBlocks.Text.Hexadecimal

/-!
What the parts of the program report about their work. An entry has a severity,
the part that it comes from and its text. Nothing else in the library depends on
the journal: what is done and what is reported are separate definitions.
-/

namespace TangibleBlocks

inductive Severity where
  | error
  | warn
  | info
  | debug
  deriving DecidableEq

namespace Severity

def name : Severity → String
  | error => "ERROR"
  | warn => "WARN"
  | info => "INFO"
  | debug => "DEBUG"

/-- Whether an entry is for the user and not only for someone who studies the program. -/
def isPublic : Severity → Bool
  | debug => false
  | _ => true

end Severity

/-- The parts of the program that report. -/
inductive Origin where
  | decoder
  | detector
  | compiler
  | folding
  | robot
  | level
  | execution
  | snapshot
  | session
  | tensorFiles
  | frameText
  | logSink
  | records
  | mainTool
  | oneShotTool
  | continuousTool
  deriving DecidableEq

namespace Origin

/-- The name under which a part reports. -/
def path : Origin → String
  | decoder => "bloco::model::decode"
  | detector => "bloco::model"
  | compiler => "bloco::compiler"
  | folding => "bloco::compiler::parse"
  | robot => "bloco::agent"
  | level => "bloco::world"
  | execution => "bloco::interpreter"
  | snapshot => "bloco::snapshot"
  | session => "bloco::task"
  | tensorFiles => "bloco::input::tensor_file"
  | frameText => "bloco::input::json_file"
  | logSink => "bloco::output::log_output"
  | records => "bloco::output::directory_record"
  | mainTool => "bloco"
  | oneShotTool => "simple_oneshot"
  | continuousTool => "simple_continueshot"

end Origin

structure Entry where
  severity : Severity
  origin : Origin
  text : String
  deriving DecidableEq

/-- Spells a control character that a terminal may take for the beginning of a command. -/
def spellControl (c : Char) : List Char :=
  let n := c.toNat
  if [0x07, 0x08, 0x0C, 0x1B, 0x7F].contains n then
    ['\\', 'x', Nat.digitChar (n / 16), Nat.digitChar (n % 16)]
  else if 0x80 ≤ n ∧ n ≤ 0x9F then
    ['\\', 'u', '\x7b'] ++ (Text.hexText n).toList ++ ['\x7d']
  else [c]

/-- The text as it is shown on a terminal. -/
def Entry.shown (e : Entry) : String :=
  String.ofList (e.text.toList.flatMap spellControl)

namespace Origin

def error (o : Origin) (text : String) : Entry :=
  ⟨.error, o, text⟩

def warn (o : Origin) (text : String) : Entry :=
  ⟨.warn, o, text⟩

def info (o : Origin) (text : String) : Entry :=
  ⟨.info, o, text⟩

def debug (o : Origin) (text : String) : Entry :=
  ⟨.debug, o, text⟩

end Origin

end TangibleBlocks
