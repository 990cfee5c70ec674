import ClusterNode.Config.Environment
import ClusterNode.Files
import ClusterNode.Number.Decimal

/-!
# Logging

Where the events of a node go and which of them. The settings come from the configuration; variables
of the environment win over it. Files are written below one directory, one for all events and one
for each component that has its own. A process has one log, and it is installed once.
-/

namespace ClusterNode

inductive LogLevel
  | error
  | warn
  | info
  | debug
  | trace
  deriving DecidableEq, Repr

namespace LogLevel

def name : LogLevel -> String
  | error => "ERROR"
  | warn => "WARN"
  | info => "INFO"
  | debug => "DEBUG"
  | trace => "TRACE"

/-- All levels; the first one has the number one. -/
def all : List LogLevel := [error, warn, info, debug, trace]

def ofNumber? (n : Nat) : Option LogLevel := if n = 0 then none else all[n - 1]?

def ofName? (s : String) : Option LogLevel :=
  all.find? fun level => Text.asciiLower level.name == Text.asciiLower s

/-- A level is written by its number or by its name. -/
def ofText? (s : String) : Option LogLevel :=
  ((Number.word? s.toList).bind ofNumber?).or (ofName? s)

theorem ofName?_name (level : LogLevel) : ofName? level.name = some level := by
  cases level <;> decide

end LogLevel

structure LoggingConfig where
  dir : String
  console : Bool
  consoleLevel : LogLevel
  file : Bool
  fileLevel : LogLevel
  deriving DecidableEq, Repr

namespace LoggingConfig

/-- A directory below the home of the user. -/
def defaultDir (env : Environment) : String := (env.get? "HOME").getD "/tmp" ++ "/tessera/logs"

def default (env : Environment) : LoggingConfig :=
  { dir := defaultDir env, console := true, consoleLevel := .info, file := false
    fileLevel := .info }

/-- The settings of a configuration. A level that is none counts as the middle one. -/
def ofSettings (env : Environment) (dir : Option String) (console file : Bool) (level : String) :
    LoggingConfig :=
  let level := (LogLevel.ofText? level).getD .info
  { dir := dir.getD (defaultDir env), console, consoleLevel := level, file, fileLevel := level }

def consoleOn (text : String) : Bool := Text.lower text != "false" && text != "0"

def filesOn (text : String) : Bool := Text.lower text == "true" || text == "1"

def withOverrides (c : LoggingConfig) (env : Environment) : LoggingConfig :=
  let level? := (env.get? "TESSERA_LOG_LEVEL").bind LogLevel.ofText?
  { dir := (env.get? "TESSERA_LOG_DIR").getD c.dir
    console := ((env.get? "TESSERA_LOG_CONSOLE").map consoleOn).getD c.console
    consoleLevel := level?.getD c.consoleLevel
    file := ((env.get? "TESSERA_LOG_FILE").map filesOn).getD c.file
    fileLevel := level?.getD c.fileLevel }

def ofEnvironment (env : Environment) : LoggingConfig := (default env).withOverrides env

end LoggingConfig

/-!
## Installing the log
-/

inductive LoggingError
  | directory (error : FileError)
  | alreadyInstalled
  deriving DecidableEq, Repr

namespace LoggingError

def message : LoggingError -> String
  | directory error => error.message
  | alreadyInstalled =>
      "Failed to initialize logging: a global default trace dispatcher has already been set"

end LoggingError

namespace LogFiles

def names : List String := ["tessera.log", "cluster.log", "module.log"]

def create (files : Files) (dir : String) : Except FileError Files := do
  let (files, place) ← files.createDirectories dir
  return names.foldl (fun files name => files.put (place ++ [name]) (.file ByteArray.empty)) files

/-- Prepares the files if there are to be any, and installs the log. -/
def install (c : LoggingConfig) (isInstalled : Bool) (files : Files) :
    Files × Except LoggingError Unit :=
  let opened := if c.file then create files c.dir else .ok files
  match opened with
  | .error e => (files, .error (.directory e))
  | .ok files => (files, if isInstalled then .error .alreadyInstalled else .ok ())

end LogFiles
end ClusterNode
