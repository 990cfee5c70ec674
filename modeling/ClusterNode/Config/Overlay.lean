import ClusterNode.Config.KeyPath

/-!
# Laying one configuration over another

A table is laid over a table key by key. Anything else replaces what was there, and a table replaces
what is no table. The keys of a whole source stand for paths; the keys further down stand for
themselves.
-/

namespace ClusterNode

namespace Value

mutual

def overlay : Value -> Value -> Value
  | table entries, below => table (overlayEntries entries (below.asTable?.getD []))
  | v, _ => v

def overlayEntries : List (String × Value) -> Entries -> Entries
  | [], below => below
  | (key, v) :: rest, below =>
      overlayEntries rest (Entries.set below key (overlay v ((Entries.get? below key).getD nil)))

end

end Value

namespace Entries

def overlayEntry (root : Entries) (key : String) (v : Value) : Entries :=
  ((Value.modifyAt (Value.overlay v) (KeyPath.ofKey key) (.table root)).asTable?).getD []

def overlaySource (root : Entries) (source : List (String × Value)) : Entries :=
  source.foldl (fun root (key, v) => root.overlayEntry key v) root

end Entries
end ClusterNode
