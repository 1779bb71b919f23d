/-!
Reading command lines. Options have long names and are read from left to right;
the value of an option follows its name, or an equals sign. Reading ends at the
first mistake, and at a request for information.
-/

namespace TangibleBlocks.CommandLine

/-- How an option is given: without a value, with one value, or any number of times with one. -/
inductive Form where
  | flag
  | single
  | repeated
  deriving DecidableEq

/-- An option for settings `α`. A value that cannot be taken is a mistake. -/
structure Item (α : Type) where
  name : String
  form : Form
  take : String → α → Option α

inductive Misuse where
  | unexpected (argument : String)
  | needlessValue (name : String)
  | missingValue (name : String)
  | invalidValue (name value : String)
  | repetition (name : String)
  | missingOption (name : String)
  deriving DecidableEq

def Misuse.message : Misuse → String
  | unexpected a => s!"unexpected argument '{a}' found"
  | needlessValue n => s!"unexpected value for '--{n}' found; no more were expected"
  | missingValue n => s!"a value is required for '--{n}' but none was supplied"
  | invalidValue n v => s!"invalid value '{v}' for '--{n}'"
  | repetition n => s!"the argument '--{n}' cannot be used multiple times"
  | missingOption n => s!"the following required arguments were not provided: --{n}"

/-- What a command line asks for. -/
inductive Request (α : Type) where
  | run (settings : α)
  | help
  | version
  | misuse (fault : Misuse)

/-- The name of a long option and the value behind its equals sign. -/
def splitOption (body : List Char) : String × Option String :=
  let name := String.ofList (body.takeWhile (· ≠ '='))
  match body.dropWhile (· ≠ '=') with
  | _ :: value => (name, some (String.ofList value))
  | [] => (name, none)

/-- Whether an argument can be the value of the option before it. A dash of its own can. -/
def isValue (argument : String) : Bool :=
  argument == "-" || argument.toList.head? != some '-'

/-- A request for information, if the option with the given name is one. -/
def information? {α : Type} (name : String) : Option (Request α) :=
  if name = "help" then some .help else if name = "version" then some .version else none

/-- Gives an option its value. -/
def Item.give {α : Type} (o : Item α) (value : String) (a : α) : Except Misuse α :=
  match o.take value a with
  | some a => .ok a
  | none => .error (.invalidValue o.name value)

/-- The state of reading: the settings so far, the options that cannot be given once more, and the
option that waits for its value. -/
structure Reading (α : Type) where
  settings : α
  used : List String
  pending : Option (Item α)

namespace Reading

variable {α : Type}

/-- Goes on with new settings, unless there was a mistake. -/
def proceed (r : Reading α) (settings : Except Misuse α) : Except (Request α) (Reading α) :=
  match settings with
  | .ok a => .ok { r with settings := a, pending := none }
  | .error f => .error (.misuse f)

/-- A known option, perhaps with a value behind an equals sign. -/
def start (r : Reading α) (o : Item α) (attached : Option String) :
    Except (Request α) (Reading α) :=
  if r.used.contains o.name then .error (.misuse (.repetition o.name))
  else
    let r := { r with used := if o.form = Form.repeated then r.used else o.name :: r.used }
    match attached with
    | some value =>
      if o.form = .flag then .error (.misuse (.needlessValue o.name))
      else r.proceed (o.give value r.settings)
    | none =>
      if o.form = .flag then r.proceed (o.give "" r.settings)
      else .ok { r with pending := some o }

/-- A long option. -/
def long (options : List (Item α)) (r : Reading α) (body : List Char) :
    Except (Request α) (Reading α) :=
  let (name, attached) := splitOption body
  match information? name with
  | some request =>
    .error (if attached.isSome then .misuse (.needlessValue name) else request)
  | none =>
    match options.find? fun o => o.name == name with
    | none => .error (.misuse (.unexpected ("--" ++ name)))
    | some o => r.start o attached

/-- One argument. -/
def step (options : List (Item α)) (r : Reading α) (argument : String) :
    Except (Request α) (Reading α) :=
  match r.pending with
  | some o =>
    if isValue argument then r.proceed (o.give argument r.settings)
    else .error (.misuse (.missingValue o.name))
  | none =>
    match argument.toList with
    | '-' :: '-' :: body => r.long options body
    | '-' :: 'h' :: _ => .error .help
    | '-' :: 'V' :: _ => .error .version
    | _ => .error (.misuse (.unexpected argument))

/-- The end of the arguments. -/
def finish (r : Reading α) : Request α :=
  match r.pending with
  | some o => .misuse (.missingValue o.name)
  | none => .run r.settings

/-- The rest of the arguments. Behind two dashes there must be nothing. -/
def read (options : List (Item α)) : Reading α → List String → Request α
  | r, [] => r.finish
  | r, argument :: rest =>
    if argument = "--" ∧ r.pending.isNone = true then
      match rest with
      | [] => r.finish
      | next :: _ => .misuse (.unexpected next)
    else
      match r.step options argument with
      | .ok r => read options r rest
      | .error request => request

end Reading

def read {α : Type} (options : List (Item α)) (initial : α) (arguments : List String) :
    Request α :=
  Reading.read options ⟨initial, [], none⟩ arguments

end TangibleBlocks.CommandLine
