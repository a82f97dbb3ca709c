import Telemetry.CommandLine.Options
import Telemetry.Config.Basic
import Telemetry.Output.Format
import Telemetry.Text.Cut

/-!
# Commands

* `Task`            rows of a fleet, queries against a fleet, or rows of a grid;
* `Settings`        what the options of a task set;
* `forcedTag?`      reads `measurement.tag=value`;
* `Task.options`    the options of a task;
* `Request.read`    what a list of arguments asks for.
-/

namespace Telemetry.CommandLine

/-- what can be made -/
inductive Task where
  | points
  | queries
  | metaquery
deriving DecidableEq, Repr

namespace Task

/-- the name of a task -/
def name : Task → String
  | .points => "points"
  | .queries => "queries"
  | .metaquery => "metaquery"

/-- all tasks -/
def all : List Task := [.points, .queries, .metaquery]

/-- the task of a name -/
def ofName? (s : String) : Option Task := all.find? (·.name == s)

end Task

/-- what the options of a task set -/
structure Settings where
  config : Config
  format : Format := .line
  /-- rows per batch -/
  batchSize : Nat := 10000
  /-- the number of workers; rows do not depend on it -/
  workers : Option Nat := none
  templates : List String := []
  /-- the values of a tag that is written without a count -/
  times : Nat := 1
  /-- the number of queries -/
  count : UInt64 := 10
  /-- the rows that are taken to be stored -/
  written : UInt64 := 0
  /-- the output file -/
  output : Option String := none
deriving DecidableEq, Repr

/-! ## reading texts -/

/-- a natural number below a bound -/
def natural? (bound : Nat) (text : String) : Option Nat :=
  (Decimal.readNatural? text.toList).filter (· < bound)

/-- a natural number of 64 bits -/
def word? (text : String) : Option UInt64 := (natural? UInt64.size text).map Nat.toUInt64

/-- an integer from zero up to a bound of 32 bits -/
def repetitions? (text : String) : Option Nat :=
  (Decimal.readInteger? text.toList).bind fun i =>
    if 0 ≤ i ∧ i < (UInt32.size : Int) then some i.toNat else none

/-- a measurement, a tag and a value that are written as `measurement.tag=value` -/
def forcedTag? (text : String) : Option (String × String × String) := do
  let (target, value) ← Text.cutAt? '=' text.toList
  let (measurement, tag) ← Text.cutAt? '.' target
  if measurement.isEmpty || tag.isEmpty then none
  else some (String.ofList measurement, String.ofList tag, String.ofList value)

/-- the parts of a text between commas -/
def splitCommas (cs : List Char) : List (List Char) :=
  match cs with
  | [] => [[]]
  | c :: rest =>
    match splitCommas rest with
    | part :: parts => if c = ',' then [] :: part :: parts else (c :: part) :: parts
    | [] => [[c]]

/-- the kinds that are named between commas -/
def kinds? (text : String) : Option (List Kind) :=
  (splitCommas text.toList).mapM fun part => Kind.ofName? (String.ofList part)

/-! ## options -/

/-- an option that changes the configuration -/
def configOpt (name : String) (letter : Option Char) (set : String → Config → Option Config) :
    Opt Settings where
  name := name
  letter := letter
  set := fun text s => (set text s.config).map fun c => { s with config := c }

/-- the bounds of the window -/
def windowOptions : List (Opt Settings) :=
  [configOpt "start" none fun text c => (Instant.read? text).map fun t => { c with start := t },
   configOpt "end" none fun text c => (Instant.read? text).map fun t => { c with stop := t }]

/-- what a fleet is built from -/
def fleetOptions : List (Opt Settings) :=
  [configOpt "workload" 'w' fun text c =>
     (Workload.ofName? text).map fun w => { c with workload := w },
   configOpt "entities" 'e' fun text c => (word? text).map fun n => { c with entityCount := n },
   configOpt "offset" none fun text c => (word? text).map fun n => { c with offset := n },
   configOpt "interval" 'i' fun text c =>
     (word? text).map fun n => { c with interval := .ofSeconds n },
   { configOpt "measurements" 'm' fun text c =>
       (kinds? text).map fun ks => { c with kinds := c.kinds ++ ks } with
     repeats := true },
   configOpt "devices-per-site" none fun text c =>
     (word? text).map fun n => { c with devicesPerSite := n },
   { configOpt "tag" none fun text c =>
       (forcedTag? text).map fun (m, t, v) => { c with overrides := c.overrides.set m t v } with
     repeats := true }]

/-- how rows are written -/
def rowOptions : List (Opt Settings) :=
  [{ name := "format", letter := 'f',
     set := fun text s => (Format.ofName? text).map fun f => { s with format := f } },
   { name := "batch-size", letter := 'b',
     set := fun text s => (natural? UInt64.size text).map fun n => { s with batchSize := n } }]

/-- where the output goes -/
def outputOption : Opt Settings where
  name := "output"
  letter := 'o'
  set := fun text s => if text.isEmpty then none else some { s with output := some text }

/-- the number of workers -/
def workersOption : Opt Settings where
  name := "workers"
  letter := 'j'
  set := fun text s => (natural? UInt64.size text).map fun n => { s with workers := some n }

/-- what queries are made -/
def queryOptions : List (Opt Settings) :=
  [{ name := "template", letter := 't', repeats := true,
     set := fun text s => some { s with templates := s.templates ++ [text] } },
   { name := "repeat", letter := 'r',
     set := fun text s => (repetitions? text).map fun n => { s with times := n } },
   { name := "count", letter := 'c',
     set := fun text s => (word? text).map fun n => { s with count := n } },
   { name := "written",
     set := fun text s => (word? text).map fun n => { s with written := n } }]

/-- the size of a grid -/
def gridOptions : List (Opt Settings) :=
  [configOpt "axis" 'a' fun text c => (word? text).map fun n => { c with axis := n },
   configOpt "points" 'p' fun text c => (word? text).map fun n => { c with points := n }]

namespace Task

def options : Task → List (Opt Settings)
  | .points => fleetOptions ++ windowOptions ++ workersOption :: outputOption :: rowOptions
  | .queries => fleetOptions ++ windowOptions ++ outputOption :: queryOptions
  | .metaquery => gridOptions ++ windowOptions ++ outputOption :: rowOptions

/-- the settings of a task without any option -/
def defaults : Task → Settings
  | .metaquery => { config := { workload := .metaquery } }
  | _ => { config := { kinds := [] } }

/-- the settings of a task with options; queries need a template -/
def read (task : Task) (arguments : List String) : Except Refusal Settings := do
  let s ← readOptions task.options arguments task.defaults
  if task = .queries ∧ s.templates = [] then throw .misuse else return s

end Task

/-! ## requests -/

/-- the name and the version of the program -/
def versionText : String := "rusts-telemetry-simulator 0.1.0"

/-- what a list of arguments asks for -/
inductive Request where
  | help
  | version
  | misuse
  | task (task : Task) (settings : Settings)
deriving DecidableEq, Repr

namespace Request

/-- whether arguments name something that there is help on -/
def isHelpTopic (topics : List String) : Bool :=
  match topics with
  | [] => true
  | [topic] => topic = "help" || (Task.ofName? topic).isSome
  | _ => false

def read : List String → Request
  | [] => .misuse
  | "--help" :: _ => .help
  | "--version" :: _ => .version
  | "help" :: topics => if isHelpTopic topics then .help else .misuse
  | first :: rest =>
    match first.toList with
    | '-' :: 'h' :: _ => .help
    | '-' :: 'V' :: _ => .version
    | _ =>
      match Task.ofName? first with
      | none => .misuse
      | some t =>
        match t.read rest with
        | .ok s => .task t s
        | .error .help => .help
        | .error .misuse => .misuse

end Request

end Telemetry.CommandLine
