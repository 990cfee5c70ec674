import ClusterNode.Config.Value
import ClusterNode.Text.Lowercase
import ClusterNode.Text.Split

/-!
# Settings in the environment

A variable whose name begins with the name of the program and two underscores is a setting; case
does not count. Two underscores in the rest of the name separate the parts of its key. The text of a
variable becomes the narrowest value that it can be read as.
-/

namespace ClusterNode

abbrev Environment := List (String × String)

namespace Environment

def get? (env : Environment) (name : String) : Option String :=
  (env.find? fun (n, _) => n == name).map Prod.snd

def marker : List Char := "tessera__".toList

/-- The keys whose texts are lists with commas between their elements. -/
def listKeys : List String := ["cluster.static.members"]

/-- Two underscores become a point, from the left. -/
def pointed : List Char -> List Char
  | '_' :: '_' :: rest => '.' :: pointed rest
  | c :: rest => c :: pointed rest
  | [] => []

def key? (name : String) : Option String :=
  let lowered := (Text.lower name).toList
  if marker.isPrefixOf lowered then
    some (String.ofList (pointed (lowered.drop marker.length)))
  else none

def truth? (text : String) : Option Bool :=
  let lowered := Text.lower text
  if lowered = "true" then some true
  else if lowered = "false" then some false
  else none

def integer? (text : String) : Option Signed :=
  (Number.integer? text.toList).bind (Signed.ofInt? .word)

def elements (text : String) : List Value :=
  (Text.pieces ',' text.toList).map fun piece => .string (String.ofList piece)

/-- A truth value, else an integer, else a floating-point number, else a text or a list of texts. -/
def value (key text : String) : Value :=
  match truth? text, integer? text, Number.Binary64.ofText? text.toList with
  | some b, _, _ => .bool b
  | none, some i, _ => .int i
  | none, none, some x => .float x
  | none, none, none => if listKeys.contains key then .list (elements text) else .string text

def settings (env : Environment) : List (String × Value) :=
  env.filterMap fun (name, text) => (key? name).map fun key => (key, value key text)

end Environment
end ClusterNode
