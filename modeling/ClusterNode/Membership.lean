import ClusterNode.Address.Parser
import ClusterNode.Files
import ClusterNode.Signal

/-!
# Membership

Where a node learns who belongs to the cluster. A standalone node is a cluster of its own: the
member is whoever registered. A fixed membership lists its members in the configuration, or, when
that list is empty, in a file that is read anew for every query.
-/

namespace ClusterNode

/-- A member may hold several entries between commas. -/
structure FixedMembers where
  members : List String
  memberFile : Option String
  defaultPort : UInt16
  deriving DecidableEq, Repr

namespace FixedMembers

def notBlank (s : List Char) : Bool := !s.isEmpty

def listed (m : FixedMembers) : List (List Char) :=
  ((m.members.flatMap fun s => Text.pieces ',' s.toList).map Text.trimChars).filter notBlank

/-- The entries of a member file: one a line, without the comment lines. -/
def fileEntries (content : String) : List (List Char) :=
  ((Text.lines content.toList).map Text.trimChars).filter fun line =>
    notBlank line && line.head? != some '#'

/-- A missing file has no entries and leaves a warning. -/
def readFile (read : FileReader) (path : String) :
    Except ClusterError (List (List Char)) × List Signal :=
  match read path with
  | .ok content => (.ok (fileEntries content), [])
  | .error .notFound => (.ok [], [.warning ("Cluster member file not found: " ++ path)])
  | .error e => (.error (.query ("failed to read " ++ path ++ ": " ++ e.message)), [])

def entries (m : FixedMembers) (read : FileReader) :
    Except ClusterError (List (List Char)) × List Signal :=
  match m.listed, m.memberFile with
  | [], some path => readFile read path
  | listed, _ => (.ok listed, [])

/-- What follows a question mark does not count. -/
def parseEntry (m : FixedMembers) (entry : List Char) : Except ClusterError Address :=
  Address.parseWithDefault (String.ofList (Text.before '?' entry)) m.defaultPort

def resolve (m : FixedMembers) : List (List Char) -> List Address × List Signal
  | [] => ([], [])
  | entry :: rest =>
      let (addresses, signals) := resolve m rest
      match m.parseEntry entry with
      | .ok address => (address :: addresses, signals)
      | .error e =>
          (addresses, .warning ("Skipping cluster member entry: " ++ e.message) :: signals)

def query (m : FixedMembers) (read : FileReader) :
    Except ClusterError (List Address) × List Signal :=
  match m.entries read with
  | (.error e, signals) => (.error e, signals)
  | (.ok entries, signals) =>
      let (addresses, skipped) := m.resolve entries
      (.ok addresses, signals ++ skipped)

def names (m : FixedMembers) (entries : List (List Char)) (address : Address) : Bool :=
  entries.any fun entry =>
    match m.parseEntry entry with
    | .ok member => member.same address
    | .error _ => false

/-- Nobody is told about this node; a node that is not listed is warned. -/
def register (m : FixedMembers) (read : FileReader) (address : Address) :
    Except ClusterError Unit × List Signal :=
  match m.entries read with
  | (.error e, signals) => (.error e, signals)
  | (.ok entries, signals) =>
      if m.names entries address then (.ok (), signals)
      else
        (.ok (), signals ++
          [.warning (address.toText ++ " is not listed in the static cluster membership")])

end FixedMembers

inductive Membership
  | standalone (registered : Option Address)
  | fixed (members : FixedMembers)
  deriving DecidableEq, Repr

namespace Membership

def query (m : Membership) (read : FileReader) :
    Except ClusterError (List Address) × List Signal :=
  match m with
  | standalone registered => (.ok registered.toList, [])
  | fixed members => members.query read

/-- The membership afterwards, the answer and the warnings. -/
def register (m : Membership) (read : FileReader) (address : Address) :
    Membership × Except ClusterError Unit × List Signal :=
  match m with
  | standalone _ => (standalone (some address), .ok (), [])
  | fixed members =>
      let (result, signals) := members.register read address
      (m, result, signals)

end Membership
end ClusterNode
