import VibeDPN.ConfigEdit.Refinement

namespace VibeDPN

open Text Inet Keyed

namespace DeviceIdent

variable {ident : DeviceIdent} {item : DeviceNode} {x : DeviceConfig}

end DeviceIdent

def DeviceNode.change (entry : DeviceNode) (policy : DevicePolicy) (name : Option String) : DeviceNode :=
  { entry with policy := policy, name := name.getD entry.name }

namespace Edit

variable {path : String} {d : Document} {c : Config}

end Edit

end VibeDPN
