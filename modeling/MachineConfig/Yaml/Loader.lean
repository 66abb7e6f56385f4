import MachineConfig.Variables.Loading
import MachineConfig.Yaml.Document

/-!
A loader for plain YAML documents, which have no anchors, aliases, tags or directives.
-/

namespace MachineConfig.Yaml

/-- The fault that a flaw comes to. -/
def Flaw.fault : Flaw → Variables.LoadFault
  | malformed | unfinished => .notYaml
  | impossibleScalar => .raised "a value does not exist"
  | overlargeCharacter => .raised "the number of a character is too large"
  | overlargePlace => .raised "a place of a number counts too much"
  | undecodable => .undecodable

def loader : Variables.Loader := fun content => (load content).mapError Flaw.fault

end MachineConfig.Yaml
