import ClusterNode.Builtin.Boot
import ClusterNode.Launch.Configuration

/-!
# The program

Reads the command line, the environment and the configuration, boots a node and lets it work. With
the mode for initialisation it ends as soon as all modules have started. Warnings and errors are
printed where the log goes to the console. No transport is linked in, so other nodes never answer.
-/

namespace ClusterNode
namespace Program

def helpText : String :=
  "Usage: node [-c|--config FILE] [-m|--mode normal|init] [-h|--help] [-V|--version]"

def versionText : String := "node 1"

def refusal : CommandLineError -> String × UInt32
  | .displayHelp => (helpText, 0)
  | .displayVersion => (versionText, 0)
  | .invalidValue => ("error: an option has no valid value\n" ++ helpText, 2)
  | .unknownArgument => ("error: unexpected argument\n" ++ helpText, 2)
  | .argumentConflict => ("error: an option is given twice\n" ++ helpText, 2)
  | .tooManyValues => ("error: a flag takes no value\n" ++ helpText, 2)

/-- The variables of a block with a NUL after each of them. -/
def environmentOfBlock (block : String) : Environment :=
  (Text.pieces (Char.ofNat 0) block.toList).filterMap fun entry =>
    (Text.cutFirst '=' entry).map fun (name, value) => (String.ofList name, String.ofList value)

def memberFile? (a : Application) : Option String := do
  let choice ← a.module? ClusterModule.moduleName
  let members ← (FixedMembers.ofProperties choice.properties).toOption
  members.memberFile

def fileError : IO.Error -> FileError
  | .noFileOrDirectory _ _ _ => .notFound
  | .permissionDenied _ _ _ => .denied
  | .userError _ => .notText
  | _ => .isDirectory

def readFile (path : String) : IO (Except FileError String) := do
  try
    return .ok (← IO.FS.readFile path)
  catch e =>
    return .error (fileError e)

def environment : IO Environment := do
  match ← readFile "/proc/self/environ" with
  | .ok block => return environmentOfBlock block
  | .error _ => return []

/-- Reads one file; all others count as missing. -/
def readerOf (path : String) : IO FileReader := do
  let content ← readFile path
  return fun other => if other = path then content else .error .notFound

def surroundings (a : Application) : IO (Surroundings Membership) := do
  let read ← readerOf ((memberFile? a).getD "")
  return {
    source := Membership.source read
    machineHost := "127.0.0.1"
    listen := fun _ => .ok ()
    connect := fun _ address => .error (Transport.unanswered address) }

/-- Prints what the node has shown since the last time. -/
def printed (console : Bool) (b : Booted) : IO Booted := do
  if console then
    for line in Signal.logLines b.node.signals do
      IO.println line
  return { b with node := { b.node with signals := [] } }

/-- Does the runs of the recurring task, each when it is due. -/
partial def serve (a : Application) (console : Bool) (begun : Time) (b : Booted) : IO Unit := do
  match b.node.task.bind RecurringTask.wake? with
  | none => return ()
  | some due =>
      let now := (← IO.monoNanosNow) - begun
      if now < due then
        IO.sleep ((due - now) / Time.millis 1 + 1).toUInt32
      let now := (← IO.monoNanosNow) - begun
      let b := { b with surroundings := ← surroundings a }
      serve a console begun (← printed console (b.tick now))

def failed (reason : String) : IO UInt32 := do
  IO.eprintln ("Error: " ++ reason)
  return 1

def run (c : Configuration) (console : Bool) (a : Application) : IO UInt32 := do
  let b ← printed console (Booted.boot (← surroundings a) a)
  match b.outcome, c.commandLine.mode with
  | .error e, _ =>
      let _ ← printed console b.shutdown
      failed e.message
  | .ok (), .init =>
      let _ ← printed console b.shutdown
      return 0
  | .ok (), .normal =>
      serve a console (← IO.monoNanosNow) b
      return 0

def launch (env : Environment) (commandLine : CommandLine) : IO UInt32 := do
  match Configuration.load (← readerOf commandLine.config) env commandLine with
  | .error e => failed e.message
  | .ok c =>
      match c.application with
      | .error e => failed e.message
      | .ok a => run c (c.logging env).console a

end Program
end ClusterNode

def main (words : List String) : IO UInt32 := do
  let env ← ClusterNode.Program.environment
  match ClusterNode.CommandLine.ofWords env words with
  | .ok commandLine => ClusterNode.Program.launch env commandLine
  | .error e =>
      let (text, code) := ClusterNode.Program.refusal e
      IO.println text
      return code
