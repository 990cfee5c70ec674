import ClusterNode.Config.Conversion
import ClusterNode.Config.Document
import ClusterNode.Launch.CommandLine
import ClusterNode.Launch.Logging
import ClusterNode.Startup.Application

/-!
# The configuration of a launch

What a launch goes by: the command line, and the document it names under the settings of the
environment. A setting of the log that is missing or cannot be read takes its default.
-/

namespace ClusterNode

structure Configuration where
  commandLine : CommandLine
  root : Entries

namespace Configuration

def load (read : FileReader) (env : Environment) (commandLine : CommandLine) :
    Except ConfigurationError Configuration :=
  (Document.load read commandLine.config).map fun document =>
    { commandLine, root := Document.withEnvironment document env }

def application (c : Configuration) : Except ModuleError Application :=
  Application.ofEntries c.root

/-- The value of a setting of the log, unless it is missing or holds an integer that does not fit.
-/
def logSetting? (c : Configuration) (name : String) : Option Value := do
  let v ← (Value.table c.root).at? [.key "logging", .key name]
  v.asWhole.toOption

def logText? (c : Configuration) (name : String) : Option String :=
  (c.logSetting? name).bind fun v => v.toText.toOption

def logFlag? (c : Configuration) (name : String) : Option Bool :=
  (c.logSetting? name).bind fun v => v.toBool.toOption

def logDir? (c : Configuration) : Option String := c.logText? "dir"

def logLevel (c : Configuration) : String := (c.logText? "level").getD "info"

def logConsole (c : Configuration) : Bool := (c.logFlag? "console").getD true

def logFile (c : Configuration) : Bool := (c.logFlag? "file").getD false

/-- The variables of the environment win over the document. -/
def logging (c : Configuration) (env : Environment) : LoggingConfig :=
  (LoggingConfig.ofSettings env c.logDir? c.logConsole c.logFile c.logLevel).withOverrides env

end Configuration
end ClusterNode
