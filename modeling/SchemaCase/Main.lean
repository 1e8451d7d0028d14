import SchemaCase.Command.Run

namespace SchemaCase.Command

def readFile (path : Path) : IO (Except ReadError Bytes) := do
  try
    let bytes ← IO.FS.readBinFile (String.ofList path.render)
    return .ok bytes.toList
  catch error =>
    match error with
    | .noFileOrDirectory .. => return .error (.missing path)
    | .inappropriateType _ code _ =>
        return .error (if code = 21 then .isDirectory path else .notDirectory path)
    | .invalidArgument (some _) 36 _ => return .error (.nameTooLong path)
    | other => return .error (.system (toString other))

def readEnvironment (names : List String) : IO Environment := do
  let values ← names.mapM fun name => do
    return (name, (← IO.getEnv name).map String.toList)
  return fun name => (values.lookup name).bind id

def act (path : Path) : Action → IO Unit
  | .print .stdout text => do
      IO.print (String.ofList text)
      (← IO.getStdout).flush
  | .print .stderr text => IO.eprint (String.ofList text)
  | .log event => do
      try IO.eprintln event.message
      catch _ => return
  | .pass _ => return
  | .write bytes => IO.FS.writeBinFile (String.ofList path.render) ⟨bytes.toArray⟩

/-- The streams of the system are the console. -/
def perform (path : Path) (outcome : Outcome) : IO UInt32 := do
  try
    for action in outcome.actions do
      act path action
    return outcome.exitCode.toUInt32
  catch _ => return 1

/-- No other program is run here, so that the schema tool's own formatter counts as missing. -/
def runWith (texts : List String) : IO UInt32 := do
  match Arguments.parse (texts.map String.toList) with
  | .error error =>
      IO.eprintln error.message
      return 2
  | .ok arguments =>
      let environment ← readEnvironment Settings.variableNames
      let path := schemaPath arguments (.ofEnvironment environment)
      if arguments.help then perform path .help
      else
        let contents ← readFile path
        perform path (run arguments environment (fun _ => contents) none)

end SchemaCase.Command

def main (texts : List String) : IO UInt32 :=
  SchemaCase.Command.runWith texts
