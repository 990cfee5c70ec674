import ClusterNode.Config.Environment

/-!
# The command line

Two options, each with a value and given at most once, and flags that ask for help or for the
version. A value is attached to its option or follows as the next word, unless that word looks like
an option. Words are taken from left to right. A word that is nothing at all is refused at once; an
option is checked when the next one begins, or when there are no more words.
-/

namespace ClusterNode

inductive RunMode
  | normal
  | init
  deriving DecidableEq, Repr

structure CommandLine where
  config : String
  mode : RunMode
  deriving DecidableEq, Repr

/-- Why there is no command line; to ask for help or for the version ends the reading as well. -/
inductive CommandLineError
  | invalidValue
  | unknownArgument
  | argumentConflict
  | tooManyValues
  | displayHelp
  | displayVersion
  deriving DecidableEq, Repr

namespace RunMode

def name : RunMode -> String
  | normal => "normal"
  | init => "init"

def ofName? (s : String) : Option RunMode := [normal, init].find? fun mode => mode.name == s

theorem ofName?_name (mode : RunMode) : ofName? mode.name = some mode := by
  cases mode <;> decide

end RunMode

namespace CommandLine

inductive Setting
  | config
  | mode
  deriving DecidableEq, Repr

inductive Meaning
  | setting (s : Setting)
  | flag (reason : CommandLineError)

def ofLong? (name : String) : Option Meaning :=
  match name with
  | "config" => some (.setting .config)
  | "mode" => some (.setting .mode)
  | "help" => some (.flag .displayHelp)
  | "version" => some (.flag .displayVersion)
  | _ => none

def ofShort? (c : Char) : Option Meaning :=
  match c with
  | 'c' => some (.setting .config)
  | 'm' => some (.setting .mode)
  | 'h' => some (.flag .displayHelp)
  | 'V' => some (.flag .displayVersion)
  | _ => none

/-!
## Words
-/

inductive Word
  | terminator
  | long (name : String) (attached : Option String)
  | short (c : Char) (attached : Option String)
  | plain (text : String)
  deriving DecidableEq, Repr

namespace Word

/-- What follows a short option in its word; an equals sign before it does not count. -/
def attachment : List Char -> Option String
  | [] => none
  | '=' :: rest => some (String.ofList rest)
  | rest => some (String.ofList rest)

def ofText (s : String) : Word :=
  match s.toList with
  | ['-', '-'] => terminator
  | '-' :: '-' :: rest =>
      match Text.cutFirst '=' rest with
      | some (name, value) => long (String.ofList name) (some (String.ofList value))
      | none => long (String.ofList rest) none
  | '-' :: c :: rest => short c (attachment rest)
  | _ => plain s

end Word

/-!
## Reading the words
-/

/-- The settings so far, and the option that was begun last with the value that has come for it. -/
structure Reading where
  config : Option String
  mode : Option RunMode
  open? : Option (Setting × Option String)
  deriving DecidableEq, Repr

namespace Reading

def start : Reading := { config := none, mode := none, open? := none }

def has (r : Reading) : Setting -> Bool
  | .config => r.config.isSome
  | .mode => r.mode.isSome

def accept (r : Reading) (s : Setting) (value : Option String) :
    Except CommandLineError Reading :=
  match value with
  | none => .error .invalidValue
  | some text =>
      if r.has s then .error .argumentConflict
      else
        match s with
        | .config =>
            if text.isEmpty then .error .invalidValue else .ok { r with config := some text }
        | .mode =>
            match RunMode.ofName? text with
            | some mode => .ok { r with mode := some mode }
            | none => .error .invalidValue

def settle (r : Reading) : Except CommandLineError Reading :=
  match r.open? with
  | none => .ok r
  | some (s, value) => { r with open? := none }.accept s value

def begin (r : Reading) (s : Setting) (attached : Option String) :
    Except CommandLineError Reading := do
  let r ← r.settle
  match attached with
  | some value => r.accept s (some value)
  | none => return { r with open? := some (s, none) }

def flag (r : Reading) (reason : CommandLineError) : Except CommandLineError Reading := do
  let _ ← r.settle
  throw reason

/-- A word that is no option is the value of the option before it, if that still lacks one. -/
def plain (r : Reading) (text : String) : Except CommandLineError Reading :=
  match r.open? with
  | some (s, none) => .ok { r with open? := some (s, some text) }
  | _ => .error .unknownArgument

def step (r : Reading) : Word -> Except CommandLineError Reading
  | .terminator => .ok r
  | .plain text => r.plain text
  | .short c attached =>
      match ofShort? c with
      | none => .error .unknownArgument
      | some (.setting s) => r.begin s attached
      | some (.flag reason) => r.flag reason
  | .long name attached =>
      match ofLong? name, attached with
      | none, _ => .error .unknownArgument
      | some (.setting s), _ => r.begin s attached
      | some (.flag _), some _ => .error .tooManyValues
      | some (.flag reason), none => r.flag reason

/-- Nothing may follow the terminator. -/
def read (r : Reading) : List String -> Except CommandLineError Reading
  | [] => .ok r
  | word :: rest =>
      match Word.ofText word with
      | .terminator => if rest.isEmpty then .ok r else .error .unknownArgument
      | w =>
          match r.step w with
          | .ok r => read r rest
          | .error e => .error e

/-- The variable of the environment counts when the option is not given. -/
def withEnvironment (r : Reading) (value : Option String) : Except CommandLineError Reading :=
  match r.config, value with
  | none, some text => r.accept .config (some text)
  | _, _ => .ok r

end Reading

def defaultConfig : String := "conf/application.yml"

def configVariable : String := "TESSERA_CONFIG"

def ofWords (env : Environment) (words : List String) : Except CommandLineError CommandLine := do
  let r ← Reading.start.read words
  let r ← r.settle
  let r ← r.withEnvironment (env.get? configVariable)
  return { config := r.config.getD defaultConfig, mode := r.mode.getD .normal }

end CommandLine
end ClusterNode
