import Navigation.CommandLine.Value
import Navigation.Terminal.Style

namespace Navigation.CommandLine

inductive Setting where
  | scenario
  | config
  | width
  | height
  | start
  | goal
  | obstacle
  | block
  | unblock
  | moveTo
  | logLevel
  deriving DecidableEq, Repr

namespace Setting

def all : List Setting :=
  [scenario, config, width, height, start, goal, obstacle, block, unblock, moveTo, logLevel]

def name : Setting → String
  | scenario => "scenario"
  | config => "config"
  | width => "width"
  | height => "height"
  | start => "start"
  | goal => "goal"
  | obstacle => "obstacle"
  | block => "block"
  | unblock => "unblock"
  | moveTo => "move-to"
  | logLevel => "log-level"

def placeholder : Setting → String
  | obstacle => "OBSTACLES"
  | moveTo => "MOVE_TO"
  | logLevel => "LOG_LEVEL"
  | s => s.name.toUpper

def letter? : Setting → Option Char
  | scenario => some 's'
  | config => some 'c'
  | _ => none

def help : Setting → String
  | scenario => "TOML scenario file; grid arguments are ignored when given"
  | config => "Planner config TOML, overrides the scenario's [planner] table"
  | width => "Grid width in cells [default: 10]"
  | height => "Grid height in cells [default: 10]"
  | start => "Start cell as x,y [default: 0,0]"
  | goal => "Goal cell as x,y (defaults to the far corner)"
  | obstacle => "Initially blocked cell as x,y (repeatable)"
  | block => "Cell to block after the first plan (repeatable)"
  | unblock => "Cell to free after the first plan (repeatable)"
  | moveTo => "Robot position for the replan, as x,y"
  | logLevel => "Log filter [default: warn]"

instance : ToString Setting where
  toString s := s!"--{s.name} <{s.placeholder}>"

def ofName? (name : String) : Option Setting := all.find? fun s => s.name == name

def ofLetter? (c : Char) : Option Setting := all.find? fun s => s.letter? == some c

end Setting

inductive Inquiry where
  | help
  | version
  deriving DecidableEq, Repr

namespace Inquiry

def name : Inquiry → String
  | help => "help"
  | version => "version"

def option (i : Inquiry) : String := "--" ++ i.name

def letter : Inquiry → Char
  | help => 'h'
  | version => 'V'

def ofName? (name : String) : Option Inquiry := [help, version].find? fun i => i.name == name

def ofLetter? (c : Char) : Option Inquiry := [help, version].find? fun i => i.letter == c

end Inquiry

inductive UsageError where
  | invalidValue (setting : Setting) (value reason : String)
  | unexpected (argument : String)
  | missingValue (setting : Setting)
  | repeated (setting : Setting)
  | unneededValue (inquiry : Inquiry) (value : String)
  deriving DecidableEq, Repr

def UsageError.message : UsageError → String
  | .invalidValue setting value reason =>
    s!"invalid value '{wrong value}' for '{literal (toString setting)}': {reason}"
  | .unexpected argument => s!"unexpected argument '{wrong argument}' found"
  | .missingValue setting =>
    s!"a value is required for '{wrong (toString setting)}' but none was supplied"
  | .repeated setting =>
    s!"the argument '{wrong (toString setting)}' cannot be used multiple times"
  | .unneededValue inquiry value =>
    s!"unexpected value '{wrong value}' for '{literal inquiry.option}' found; " ++
      "no more were expected"
where
  wrong (text : String) : String := Terminal.Style.wrong.apply text
  literal (text : String) : String := Terminal.Style.literal.apply text

structure Arguments where
  scenario : Option String := none
  config : Option String := none
  width : Option Nat := none
  height : Option Nat := none
  start : Option Point := none
  goal : Option Point := none
  obstacles : List Point := []
  block : List Point := []
  unblock : List Point := []
  moveTo : Option Point := none
  logLevel : Option String := none
  deriving DecidableEq, Repr

namespace Arguments

def has (a : Arguments) : Setting → Bool
  | .scenario => a.scenario.isSome
  | .config => a.config.isSome
  | .width => a.width.isSome
  | .height => a.height.isSome
  | .start => a.start.isSome
  | .goal => a.goal.isSome
  | .moveTo => a.moveTo.isSome
  | .logLevel => a.logLevel.isSome
  | .obstacle => false
  | .block => false
  | .unblock => false

def set (a : Arguments) (setting : Setting) (value : String) : Except UsageError Arguments := do
  if a.has setting then throw (.repeated setting)
  let path : Except UsageError String :=
    if value.isEmpty then throw (.missingValue setting) else return value
  let size : Except UsageError Nat :=
    (readSize value.toList).mapError fun e => .invalidValue setting value e.message
  let point : Except UsageError Point :=
    (readPoint value.toList).mapError fun e => .invalidValue setting value e.message
  match setting with
  | .scenario => return { a with scenario := ← path }
  | .config => return { a with config := ← path }
  | .width => return { a with width := ← size }
  | .height => return { a with height := ← size }
  | .start => return { a with start := ← point }
  | .goal => return { a with goal := ← point }
  | .obstacle => return { a with obstacles := a.obstacles ++ [← point] }
  | .block => return { a with block := a.block ++ [← point] }
  | .unblock => return { a with unblock := a.unblock ++ [← point] }
  | .moveTo => return { a with moveTo := ← point }
  | .logLevel => return { a with logLevel := value }

end Arguments

inductive Request where
  | inquiry (i : Inquiry)
  | run (a : Arguments)
  deriving DecidableEq, Repr

structure Scan where
  settled : Arguments := {}
  waiting : Option (Setting × Option String) := none

namespace Scan

def settle (s : Scan) : Except UsageError Arguments :=
  match s.waiting with
  | none => .ok s.settled
  | some (setting, none) => .error (.missingValue setting)
  | some (setting, some value) => s.settled.set setting value

def setting (s : Scan) (setting : Setting) (value : Option String) : Except UsageError Scan := do
  let settled ← s.settle
  match value with
  | some v => return { settled := ← settled.set setting v }
  | none => return { settled, waiting := some (setting, none) }

def inquiry (s : Scan) (i : Inquiry) : Except UsageError Request := do
  let _ ← s.settle
  return .inquiry i

def long (s : Scan) (text : List Char) : Except UsageError (Request ⊕ Scan) := do
  let name := String.ofList (text.takeWhile (· ≠ '='))
  let value := (text.dropWhile (· ≠ '=')).tail?.map String.ofList
  match Setting.ofName? name, Inquiry.ofName? name with
  | some setting, _ => return .inr (← s.setting setting value)
  | none, some i => match value with
    | some v => throw (.unneededValue i v)
    | none => return .inl (← s.inquiry i)
  | none, none => throw (.unexpected s!"--{name}")

def short (s : Scan) (letter : Char) (rest : List Char) : Except UsageError (Request ⊕ Scan) := do
  match Setting.ofLetter? letter, Inquiry.ofLetter? letter with
  | some setting, _ =>
    let value := match rest with
      | [] => none
      | '=' :: v => some (String.ofList v)
      | v => some (String.ofList v)
    return .inr (← s.setting setting value)
  | none, some i => return .inl (← s.inquiry i)
  | none, none => throw (.unexpected s!"-{letter}")

def plain (s : Scan) (text : String) : Except UsageError Scan :=
  match s.waiting with
  | some (setting, none) => .ok { s with waiting := some (setting, some text) }
  | _ => .error (.unexpected text)

def run (s : Scan) : List String → Except UsageError Request
  | [] => do return .run (← s.settle)
  | arg :: rest => do
    match arg.toList with
    | ['-', '-'] => match rest with
      | [] => return .run (← s.settle)
      | next :: _ => throw (.unexpected next)
    | '-' :: '-' :: text => match ← s.long text with
      | .inl request => return request
      | .inr s => run s rest
    | '-' :: letter :: text => match ← s.short letter text with
      | .inl request => return request
      | .inr s => run s rest
    | _ => run (← s.plain arg) rest

end Scan

def parse (args : List String) : Except UsageError Request := Scan.run {} args

end Navigation.CommandLine
