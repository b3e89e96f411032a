import ClusterLaunch.Cloud.Host
import ClusterLaunch.Command.Basic

/-! # The program

The outer layer of the two commands: it reads files and the environment, writes the lines of a
run, and ends with its status. No service can be reached from here, so every request is answered
by a failure to connect.
-/

namespace ClusterLaunch

def endpoint (s : Service) (region : String) : String :=
  "https://" ++ s.name ++ "." ++ region ++ ".amazonaws.com"

def unreachable (region : String) : World where
  answers := fun m => [⟨0.0, .error (.disrupted (.unreachable (endpoint m.service region)))⟩]

def ReadError.ofSystem : IO.Error → ReadError
  | .inappropriateType _ code _ => if code = 20 then .notDirectory else .isDirectory
  | .invalidArgument _ _ _ => .nameTooLong
  | _ => .notFound

def readSystemFile (p : Path) : IO (Except ReadError ByteArray) := do
  try
    return .ok (← IO.FS.readBinFile p.text)
  catch e => return .error (.ofSystem e)

/-- The variables that the commands look at. -/
def consulted : List String :=
  ["CLUSTER_CONFIG", "STACK_TEMPLATE", "AWS_PROFILE", "STACK_POLL_INTERVAL", "STACK_TIMEOUT",
    "DRY_RUN"]

def systemEnvironment : IO Environment := do
  let found ← consulted.mapM fun name => return (name, ← IO.getEnv name)
  return fun name => (found.lookup name).join

/-- The two files that a command may read, and the region that the configuration names. -/
def systemFiles (c : Command) (env : Environment) (a : Arguments) : IO (Files × String) := do
  match Inputs.resolve env (c = .provision) a.raw with
  | .error _ => return (fun _ => .error .notFound, "")
  | .ok inputs =>
    let config ← readSystemFile inputs.configPath
    let template ← match inputs.templatePath with
      | some p => readSystemFile p
      | none => pure (.error .notFound)
    let files : Files := fun p => if p = inputs.configPath then config else template
    match Config.load files inputs.configPath with
    | .ok config => return (files, config.text .region)
    | .error _ => return (files, "")

def display (least : Level) (events : List Event) : IO Unit := do
  let out ← IO.getStdout
  let err ← IO.getStderr
  for e in events do
    out.putStr e.output
    err.putStr (e.errors (toString (← IO.monoMsNow)) least)

def runCommand (c : Command) (words : List String) : IO UInt32 := do
  match Arguments.parse? c words with
  | none =>
    (← IO.getStderr).putStrLn "error: the command line cannot be understood"
    return 1
  | some a =>
    let env ← systemEnvironment
    let (files, region) ← systemFiles c env a
    let run := ((c.run files env a).run (unreachable region)).hosted .system
    display a.logLevel run.events
    match run.outcome with
    | .ok status => return status.code.toUInt32
    | .error e =>
      (← IO.getStderr).putStrLn e.message
      return 1

end ClusterLaunch

/-- The first word names the command. -/
def main (words : List String) : IO UInt32 := do
  match words with
  | "validate" :: rest => ClusterLaunch.runCommand .validate rest
  | "provision" :: rest => ClusterLaunch.runCommand .provision rest
  | _ =>
    (← IO.getStderr).putStrLn "usage: validate | provision, with the options of each"
    return 1
