import Navigation.CommandLine.Arguments
import Navigation.CommandLine.LogFilter
import Navigation.Replanning.Text
import Navigation.Scenario.Report

namespace Navigation.CommandLine

inductive FileError where
  | missing
  | directory
  | notDirectory
  | nameTooLong
  | notText
  | other (text : String)
  deriving DecidableEq, Repr

def FileError.message : FileError → String
  | .missing => "No such file or directory (os error 2)"
  | .directory => "Is a directory (os error 21)"
  | .notDirectory => "Not a directory (os error 20)"
  | .nameTooLong => "File name too long (os error 36)"
  | .notText => "stream did not contain valid UTF-8"
  | .other text => text

abbrev Files := String → Except FileError String

structure Outcome where
  exit : Nat
  stdout : String
  stderr : String
  deriving DecidableEq, Repr

namespace Outcome

def success (stdout : String) : Outcome := ⟨0, stdout, ""⟩

def usage (e : UsageError) : Outcome :=
  let alarm := Terminal.Style.alarm.apply "error:"
  let help := Terminal.Style.literal.apply Inquiry.help.option
  ⟨2, "", Terminal.plain s!"{alarm} {e.message}\n\nFor more information, try '{help}'.\n"⟩

def aborted (reason : String) : Outcome := ⟨101, "", reason⟩

def causes : List String → String
  | [] => ""
  | [cause] => s!"\n\nCaused by:\n    {cause}"
  | cs => "\n\nCaused by:" ++ String.join (cs.zipIdx.map fun (c, i) => s!"\n    {i}: {c}")

def failure (message : String) (chain : List String) : Outcome :=
  ⟨1, "", s!"Error: {message}{causes chain}\n"⟩

end Outcome

inductive LoadError where
  | file (error : FileError)
  | config (error : ConfigError)
  deriving DecidableEq, Repr

def LoadError.outcome (what path : String) (e : LoadError) : Outcome :=
  let message := s!"failed to load {what} {path}"
  match e with
  | .file e => .failure message [s!"IO error: {e.message}", e.message]
  | .config .unreadable =>
    ⟨1, "", s!"Error: {message}\n\nCaused by:\n    Configuration error: "⟩
  | .config e => .failure message [s!"Configuration error: {e.message}"]

def readFile {α : Type} (files : Files) (read : String → Except ConfigError α) (path : String) :
    Except LoadError α := do
  let text ← (files path).mapError .file
  (read text).mapError .config

def loadScenario (files : Files) (path : String) : Except Outcome Scenario :=
  (readFile files Scenario.ofDocument path).mapError (LoadError.outcome "scenario" path)

def loadLimits (files : Files) (path : String) : Except Outcome Limits :=
  (readFile files (Limits.ofDocument ·) path).mapError (LoadError.outcome "planner config" path)

def RunError.outcome : RunError → Outcome
  | .planner (.overflow reason) => .aborted reason.message
  | .planner e => .failure e.message []
  | .change number e => .failure s!"replan {number} rejected" [e.message]

namespace Arguments

def defaultSize : Nat := 10

def toScenario (a : Arguments) : Scenario :=
  let width := a.width.getD defaultSize
  let height := a.height.getD defaultSize
  let changed := !a.block.isEmpty || !a.unblock.isEmpty || a.moveTo.isSome
  { width
    height
    start := a.start.getD ⟨0, 0⟩
    goal := a.goal.getD ⟨width - 1, height - 1⟩
    obstacles := a.obstacles
    changes := if changed then [⟨a.block, a.unblock, a.moveTo⟩] else []
    limits := default }

def load (a : Arguments) (files : Files) : Except Outcome Scenario := do
  let s ← match a.scenario with
    | some path => loadScenario files path
    | none => pure a.toScenario
  match a.config with
  | some path => return { s with limits := ← loadLimits files path }
  | none => return s

def defaultFilter : String := "warn"

def checkFilter (a : Arguments) : Except Outcome Unit :=
  let filter := a.logLevel.getD defaultFilter
  (LogFilter.check filter).mapError fun e => match e with
    | .misfit m => .aborted m.message
    | e => .failure s!"Configuration error: invalid log filter '{filter}': {e.message}" []

def run (a : Arguments) (files : Files) : Except Outcome Outcome := do
  a.checkFilter
  let s ← a.load files
  let report ← s.run.mapError RunError.outcome
  return .success (report.json.pretty 0 ++ "\n")

end Arguments

def programName : String := "waymark-plan"

def version : String := "0.1.0"

def helpText : String :=
  let line (option text : String) : String :=
    "  " ++ option ++ String.ofList (List.replicate (27 - option.length) ' ') ++ text ++ "\n"
  let setting (s : Setting) : String :=
    line ((match s.letter? with
      | some c => s!"-{c}, "
      | none => "    ") ++ toString s) s.help
  "Plan on a grid with D* Lite, apply world changes, print the results as JSON\n\n" ++
    s!"Usage: {programName} [OPTIONS]\n\nOptions:\n" ++ String.join (Setting.all.map setting) ++
    line "-h, --help" "Print help" ++ line "-V, --version" "Print version"

def run (args : List String) (files : Files) : Outcome :=
  match parse args with
  | .error e => .usage e
  | .ok (.inquiry .help) => .success helpText
  | .ok (.inquiry .version) => .success s!"{programName} {version}\n"
  | .ok (.run a) => match a.run files with
    | .ok o => o
    | .error o => o

def paths (args : List String) : List String :=
  match parse args with
  | .ok (.run a) => a.scenario.toList ++ a.config.toList
  | _ => []

end Navigation.CommandLine
