import ClusterNode.Config.Environment
import ClusterNode.Config.Overlay
import ClusterNode.Files

/-!
# The configuration of a node

One JSON document in a file, with an object at its top, and the settings of the environment laid
over it. A mark of the byte order at the beginning of the file does not count.
-/

namespace ClusterNode

inductive ConfigurationError
  | missing (path : String)
  | malformed (path : String)
  | unreadable (error : FileError)
  deriving DecidableEq, Repr

namespace ConfigurationError

def message : ConfigurationError -> String
  | missing path => "configuration file \"" ++ path ++ "\" not found"
  | malformed path => "configuration file \"" ++ path ++ "\" is no JSON object"
  | unreadable error => error.message

end ConfigurationError

namespace Document

def maxDepth : Nat := 128

def withoutMark (text : String) : String :=
  match text.toList with
  | c :: rest => if c.toNat = 0xFEFF then String.ofList rest else text
  | [] => text

/-- The entries of the object that a text holds. -/
def entries? (text : String) : Option Entries := do
  let json ← Json.read? maxDepth (withoutMark text)
  let v ← Value.ofJson? json
  v.asTable?

/-- The document of a file. What is no file counts as missing. -/
def load (read : FileReader) (path : String) : Except ConfigurationError Entries :=
  match read path with
  | .ok text =>
      match entries? text with
      | some entries => .ok entries
      | none => .error (.malformed path)
  | .error .notText => .error (.unreadable .notText)
  | .error _ => .error (.missing path)

def withEnvironment (document : Entries) (env : Environment) : Entries :=
  (Entries.overlaySource [] document).overlaySource env.settings

end Document
end ClusterNode
