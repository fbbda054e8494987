import Navigation.CommandLine.Run

namespace Navigation.CommandLine

def systemCode (code : UInt32) : UInt32 := if code < 0x80000000 then code else -code

def FileError.ofError : IO.Error → FileError
  | .noFileOrDirectory .. => .missing
  | .inappropriateType _ code _ => if systemCode code = 20 then .notDirectory else .directory
  | e@(.invalidArgument _ code _) =>
    if systemCode code = 36 then .nameTooLong else .other (toString e)
  | e => .other (toString e)

def readPath (path : String) : IO (String × Except FileError String) := do
  try
    match String.fromUTF8? (← IO.FS.readBinFile path) with
    | some text => return (path, .ok text)
    | none => return (path, .error .notText)
  catch e =>
    return (path, .error (FileError.ofError e))

end Navigation.CommandLine

open Navigation.CommandLine in
def main (args : List String) : IO UInt32 := do
  let contents ← (paths args).mapM readPath
  let outcome := run args fun path => (contents.lookup path).getD (.error .missing)
  IO.print outcome.stdout
  IO.eprint outcome.stderr
  return UInt32.ofNat outcome.exit
