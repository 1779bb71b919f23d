import TangibleBlocks.CommandLine.Settings
import TangibleBlocks.Grid.Level
import TangibleBlocks.Program.Data
import TangibleBlocks.Session.Breakdown
import TangibleBlocks.Sink.Basic
import TangibleBlocks.Source.Basic

/-!
The three tools. The main tool watches the blocks, captures a program and
executes it on a level; the others only decode one frame, or show the program
that has been captured.
-/

namespace TangibleBlocks.CommandLine

inductive Tool where
  | main
  | oneShot
  | continuous
  deriving DecidableEq

namespace Tool

def name : Tool → String
  | main => "bloco"
  | oneShot => "simple-oneshot"
  | continuous => "simple-continueshot"

def ofName? (text : String) : Option Tool :=
  [main, oneShot, continuous].find? fun t => t.name == text

def origin : Tool → Origin
  | main => .mainTool
  | oneShot => .oneShotTool
  | continuous => .continuousTool

def items : Tool → List (Item Settings)
  | main =>
    [inputItem, outputItem, labelsItem, scoreItem, previewItem, overlapItem, toleranceItem,
      repeatsItem, widthItem, heightItem, startItem, headingItem, blockedItem, collectibleItem,
      goalItem, realtimeItem, limitItem, tickItem]
  | oneShot => [inputItem, outputItem, previewItem]
  | continuous => [inputItem, outputItem, limitItem]

/-- The settings to start with. The tool for a single frame tells everything about it. -/
def initial : Tool → Settings
  | oneShot => .usual (.ofScheme "log" (some "verbose"))
  | _ => .usual (.ofScheme "log" none)

/-- What the arguments ask for. There has to be an input. -/
def request (t : Tool) (arguments : List String) : Request (Settings × Url) :=
  match read t.items t.initial arguments with
  | .run s =>
    match s.input with
    | none => .misuse (.missingOption inputItem.name)
    | some input => .run (s, input)
  | .help => .help
  | .version => .version
  | .misuse f => .misuse f

end Tool

/-- What a tool finds when it is started. -/
structure Surroundings where
  storage : Storage
  now : Timestamp
  elapsed : Elapsed

/-- How a tool ends. -/
inductive Ending where
  | done
  | failed (message : String)
  | brokenOff (message : String)
  deriving DecidableEq

/-- The exit code of a tool. -/
def Ending.code : Ending → UInt32
  | done => 0
  | failed _ => 1
  | brokenOff _ => 101

/-- What a tool leaves behind. -/
structure Outcome where
  notes : List Entry
  ending : Ending
  storage : Storage
  /-- How long the tool has to wait before it is done. -/
  pause : Duration

namespace Outcome

def done (s : Storage) : Outcome :=
  ⟨[], .done, s, .zero⟩

def failed (s : Storage) (message : String) : Outcome :=
  ⟨[], .failed message, s, .zero⟩

def brokenOff {σ : Type} (s : Storage) (b : Breakdown σ) : Outcome :=
  ⟨b.notes, .brokenOff b.cause.message, s, .zero⟩

/-- The same, with notes in front. -/
def after (notes : List Entry) (o : Outcome) : Outcome :=
  { o with notes := notes ++ o.notes }

end Outcome

/-- A source and a sink, ready for use. -/
structure Setup where
  feed : Feed
  outlet : Sink.Outlet

namespace Tool

/-- What every tool says first. -/
def opening (t : Tool) (s : Settings) (input : Url) : List Entry :=
  [t.origin.info s!"输入来源: {input.toText}", t.origin.info s!"输出路径: {s.output.toText}"]

/-- The source for a vocabulary with `n` classes, and the sink. -/
def setup (s : Settings) (input : Url) (n : Nat) (e : Surroundings) : Except String Setup :=
  match (Source.ofUrl e.storage input).bind (Source.withClasses n) with
  | .error f => .error f.message
  | .ok source =>
    match Sink.ofUrl s.output with
    | .error f => .error f.message
    | .ok sink => .ok ⟨source.feed e.storage, ⟨sink, e.storage⟩⟩

/-- How long watching pauses between frames. -/
def ticks (s : Settings) (w : Watcher) (frames : Nat) : Duration :=
  let pauses := if w.isLast frames then frames - 1 else frames
  (Duration.ofMilliseconds (s.tick.getD 0)).times pauses

def level (s : Settings) : Level :=
  .build s.width s.height s.blocked s.items s.goal

/-- The surroundings of a captured program: a level, with a record of the pauses. -/
def runner (s : Settings) : Runner (Recording Level) where
  compiler := (Compiler.standard.withTolerance s.lineTolerance).withRepeats s.loopRepeats
  host := (Host.ofWorld Level.world).recorded
  pace := .usual

def remark (r : Recording Level) (c : Cell) : List Entry :=
  r.state.collectNotes c

/-- What the main tool says last. -/
def closing (p : Program) (c : Progress (Recording Level)) : List Entry :=
  let o := c.state.state.outcome c.robot.cell
  Origin.mainTool.info
      (s!"程序 {p.commandCount} 条命令执行完毕，收集 {o.collected.length} 个物品，" ++
        s!"剩余 {o.remaining} 个") ::
    if o.goalReached then [Origin.mainTool.info "到达终点!"]
    else if c.report.cancelled then [Origin.mainTool.warn "程序被取消"]
    else []

def total (ds : List Duration) : Duration :=
  .ofNanoseconds (ds.foldr (fun d n => d.nanoseconds + n) 0)

/-- Captures and executes what has been watched, and shows it. -/
def execute (s : Settings) (e : Surroundings) (slot : Slot) (outlet : Sink.Outlet) : Outcome :=
  let k := runner s
  let robot := Robot.idle s.start s.heading
  let world : Recording Level := ⟨level s, #[], #[]⟩
  let c := k.captureAndRun slot robot world
  let report := c.progress.report
  let reply := Sink.Outlet.showProgram e.now outlet c.program report
  let notes := k.captureNotes remark slot robot world ++
    Sink.Outlet.programNotes e.now outlet c.program report
  match reply.failure with
  | some f => (Outcome.failed reply.display.storage f.message).after notes
  | none =>
    let pause := if s.realtime then total c.progress.state.waits.toList else .zero
    { (Outcome.done reply.display.storage).after (notes ++ closing c.program c.progress) with
      pause }

/-- Watches the frames of a feed. -/
def watch (s : Settings) (e : Surroundings) (d : Detector) (ready : Setup)
    (next : Watching Sink.Outlet → Outcome) : Outcome :=
  let w : Watcher := ⟨d, s.limit⟩
  let display := Sink.Outlet.display e.now
  let remark := Sink.Outlet.frameNotes e.now
  let begun := Watching.start ready.outlet
  match w.breakdown? display remark e.elapsed e.now ready.feed begun with
  | some b =>
    { Outcome.brokenOff b.state.display.storage b with pause := ticks s w b.state.frame }
  | none =>
    let (watched, failure) := w.watch display e.now ready.feed.frames begun
    let notes := w.watchNotes display remark e.elapsed e.now ready.feed begun
    match failure with
    | some f => (Outcome.failed watched.display.storage f.message).after notes
    | none =>
      let o := next watched
      { o.after notes with
        pause := total [ticks s w watched.frame, o.pause] }

def detector (s : Settings) (v : Vocabulary) : Detector :=
  let usual := if s.preview then Detector.previewThreshold else Detector.captureThreshold
  ⟨v, s.scoreThreshold.getD usual, s.overlapThreshold⟩

def runMain (s : Settings) (input : Url) (e : Surroundings) : Outcome :=
  let vocabulary := if s.labels.isEmpty then .ok .standard else Vocabulary.ofLabels s.labels
  match vocabulary with
  | .error f => .failed e.storage f.message
  | .ok v =>
    let d := detector s v
    Outcome.after
      [Origin.mainTool.info s!"词表类别数: {v.size}",
        Origin.mainTool.info s!"置信度阈值: {d.scoreThreshold.toPlain}",
        Origin.mainTool.info s!"NMS 阈值: {d.overlapThreshold.toPlain}"] <|
      Outcome.after (Source.ofUrlNotes e.storage input) <|
        match setup s input v.size e with
        | .error message => .failed e.storage message
        | .ok ready => watch s e d ready fun w => execute s e w.slot w.display

def runOneShot (s : Settings) (input : Url) (e : Surroundings) : Outcome :=
  let d := detector s .standard
  Outcome.after (Source.ofUrlNotes e.storage input) <|
    match setup s input d.vocabulary.size e with
    | .error message => .failed e.storage message
    | .ok ready =>
      match OneShot.breakdown? d ready.feed ready.outlet with
      | some b => .brokenOff b.state.storage b
      | none =>
        let display := Sink.Outlet.display e.now
        let (outlet, failure) := OneShot.run d display ready.feed.frames ready.outlet
        Outcome.after
          (OneShot.runNotes d display (Sink.Outlet.frameNotes e.now) e.elapsed ready.feed
            ready.outlet) <|
          match failure with
          | some f => .failed outlet.storage (f.message Sink.Fault.message)
          | none => .done outlet.storage

/-- Tells the program that has been captured. -/
def present (slot : Slot) (outlet : Sink.Outlet) : Outcome :=
  let snapshot := slot.snapshot
  let p := Compiler.standard.compile snapshot.items
  (Outcome.done outlet.storage).after <|
    Compiler.standard.compileNotes snapshot.items ++
      [Origin.continuousTool.info s!"第 {snapshot.frame} 帧拍照，程序:\n{p.toJson.toPretty}"]

def runContinuous (s : Settings) (input : Url) (e : Surroundings) : Outcome :=
  let d := Detector.standard
  Outcome.after (Source.ofUrlNotes e.storage input) <|
    match setup s input d.vocabulary.size e with
    | .error message => .failed e.storage message
    | .ok ready => watch s e d ready fun w => present w.slot w.display

def run (t : Tool) (s : Settings) (input : Url) (e : Surroundings) : Outcome :=
  Outcome.after (t.opening s input) <|
    match t with
    | main => runMain s input e
    | oneShot => runOneShot s input e
    | continuous => runContinuous s input e

end Tool

end TangibleBlocks.CommandLine
