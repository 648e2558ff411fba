import SubscriptionGateway.CommandLine
import SubscriptionGateway.Greeting.Engine
import SubscriptionGateway.Session.Schedule
import SubscriptionGateway.Settings.Load

/-! The gateway as a program. Settings come from a file, the environment and the command line; then
one connection is served, whose frames are the lines of standard input. -/
namespace SubscriptionGateway.Program

abbrev Connection := Agenda Session SessionTask Event

def connect (config : SessionConfig) : Connection :=
  let session := Session.new config "console" (Greeting.engine Greeting.defaultInterval)
    InterceptorChain.gateway .direct 0 false
  (Agenda.new session).record [.opened]

/-- Lets time pass up to the given time. -/
def runTo (c : Connection) (time : Nat) : Connection :=
  c.advance Session.machine (time - c.state.now)

/-- Something happens to the connection, and every task runs until it waits. -/
def stimulate (c : Connection) (cause : Session.Stimulus) : Connection :=
  (c.modify Session.machine fun s => s.stimulate cause).settle Session.machine

def frameLine : OutboundFrame → String
  | .text content => content
  | .close code reason => "close " ++ toString code ++ " " ++ reason

/-- The lines to print for what has been delivered after the first so many events. -/
def linesSince (c : Connection) (count : Nat) : List String :=
  ((c.eventsSince count).filterMap Event.delivered?).map frameLine

def hasEnded (c : Connection) : Bool :=
  match c.state.stage with
  | .ended _ => true
  | _ => false

def printSince (c : Connection) (count : Nat) : IO Unit :=
  (linesSince c count).forM IO.println

/-- Serves lines until the input or the connection ends. -/
partial def serve (input : IO.FS.Stream) (start : Nat) (c : Connection) : IO Unit := do
  let line ← input.getLine
  let seen := c.trace.length
  let current := runTo c ((← IO.monoMsNow) - start)
  if line.isEmpty then
    printSince (stimulate current .disconnect) seen
  else
    let text := String.ofList (line.toList.filter fun c => c != '\n' && c != '\r')
    let after := stimulate current (.deliver (.ok (.text text)))
    printSince after seen
    unless hasEnded after do serve input start after

/-- What stands at a path. -/
def readSource (path : String) : IO SettingsSource := do
  try
    return .file (← IO.FS.readBinFile path)
  catch
    | .noFileOrDirectory .. => return .absent
    | _ => return .directory

def readEnvironment : IO Environment := do
  let pairs ← Environment.names.filterMapM fun name => do
    return (← IO.getEnv name).map fun value => (name, value)
  return fun name => List.lookup name pairs

/-- Loads the settings and serves; the answer is the exit code. -/
def run (arguments : Arguments) : IO UInt32 := do
  let path := arguments.config.getD (Settings.defaultPath (← IO.getEnv "HOME"))
  match Settings.load (← readSource path) (← readEnvironment) with
  | .error cause =>
    IO.eprintln ("Failed to load settings from " ++ path ++ ": " ++ cause.message)
    return 1
  | .ok settings =>
    let config := arguments.apply (.ofSettings settings)
    IO.eprintln ("serving " ++ config.path ++ " on standard input")
    serve (← IO.getStdin) (← IO.monoMsNow) (connect config.connection)
    return 0

end SubscriptionGateway.Program

def main (args : List String) : IO UInt32 := do
  match SubscriptionGateway.Arguments.parse args with
  | .ok arguments => SubscriptionGateway.Program.run arguments
  | .error .helpRequested =>
    IO.print SubscriptionGateway.Arguments.usage
    return 0
  | .error cause =>
    IO.eprintln ("error: " ++ cause.message ++ "\n\n" ++ SubscriptionGateway.Arguments.usage)
    return 2
