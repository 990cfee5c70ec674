import ClusterNode.Config.Conversion
import ClusterNode.Startup.Error
import ClusterNode.Text.Blank

/-!
# The configured modules

Which modules a node loads, with the provider and the properties of each. In a configuration tree a
module is a table of the top level that has a selector; the selector names the provider, and the
entry under that name holds its properties. Modules are ordered by name, so that all nodes load them
in the same order.
-/

namespace ClusterNode

structure ModuleChoice where
  selector : String
  properties : Value

structure Application where
  modules : List (String × ModuleChoice)

namespace Application

def selectorKey : String := "selector"

def empty : Application := { modules := [] }

/-- A module that is added again moves to the end. -/
def addModule (a : Application) (name : String) (choice : ModuleChoice) : Application :=
  { modules := (a.modules.filter fun (n, _) => n != name) ++ [(name, choice)] }

def names (a : Application) : List String := a.modules.map Prod.fst

def module? (a : Application) (name : String) : Option ModuleChoice :=
  (a.modules.find? fun (n, _) => n == name).map Prod.snd

def has (a : Application) (name : String) : Bool := (a.module? name).isSome

/-- The module that an entry of the top level describes, if it describes one. -/
def choice? (name : String) (entry : Value) : Except ModuleError (Option ModuleChoice) :=
  match entry with
  | .table entries =>
      match Entries.get? entries selectorKey with
      | none => .ok none
      | some selector =>
          match selector.toText with
          | .error e => .error (.moduleConfig (name ++ "." ++ selectorKey ++ ": " ++ e.message))
          | .ok selector =>
              if Text.isBlankText selector then
                .error (.moduleConfig (name ++ "." ++ selectorKey ++ " must not be empty"))
              else
                .ok (some { selector, properties := (Entries.get? entries selector).getD .nil })
  | _ => .ok none

def collect (root : Entries) (a : Application) : List String -> Except ModuleError Application
  | [] => .ok a
  | name :: rest =>
      match choice? name ((Entries.get? root name).getD .nil) with
      | .error e => .error e
      | .ok none => collect root a rest
      | .ok (some choice) => collect root (a.addModule name choice) rest

/-- The modules of a configuration tree, which is taken as a whole first. -/
def ofEntries (root : Entries) : Except ModuleError Application :=
  match Value.wholeEntries root with
  | .error e => .error (.moduleConfig e.message)
  | .ok root => collect root .empty (Entries.sortedKeys root)

/-!
## Adding a module
-/

theorem names_addModule (a : Application) (name : String) (choice : ModuleChoice) :
    (a.addModule name choice).names = (a.names.filter fun n => n != name) ++ [name] := by
  simp only [names, addModule, List.map_append, List.map_cons, List.map_nil, List.filter_map]
  rfl

theorem mem_addModule (a : Application) (name n : String) (choice c : ModuleChoice) :
    (n, c) ∈ (a.addModule name choice).modules <->
      n ≠ name ∧ (n, c) ∈ a.modules ∨ n = name ∧ c = choice := by
  simp [addModule, and_comm]

end Application
end ClusterNode
