import ClusterNode.Config.Conversion
import ClusterNode.Membership

/-!
# Settings of a fixed membership

The members, the file that lists them when the settings do not, and the port of a member that names
none. A member file that is given as nil means that there is none.
-/

namespace ClusterNode

namespace FixedMembers

def default : FixedMembers :=
  { members := [], memberFile := some "conf/cluster.conf", defaultPort := 11800 }

def keys : List String := ["members", "member_file", "default_port"]

def ofFound (find : String -> Option Value.Property) : Except ConversionError FixedMembers := do
  let members ← Value.Property.read default.members Value.toTexts (find "members")
  let memberFile ←
    Value.Property.read default.memberFile Value.toOptionalText (find "member_file")
  let defaultPort ← Value.Property.read default.defaultPort Value.toPort (find "default_port")
  return { members, memberFile, defaultPort }

def ofProperties (properties : Value) : Except ConversionError FixedMembers :=
  properties.readRecord "StaticSettings" keys default ofFound

end FixedMembers
end ClusterNode
