import VibeDPN.Lib.Keyed
import VibeDPN.ConfigEdit.Document

namespace VibeDPN

open Text Inet Keyed

inductive OsError where
  | permission
  | other (reason : String)
deriving DecidableEq

-- unsynced: the file is replaced by rename before its directory is synced
inductive WriteOutcome where
  | replaced
  | refused (e : OsError)
  | unsynced (e : OsError)
deriving DecidableEq

-- edit: a ConfigEditError; invalid: one with the problems of the validation; value: a ValueError
inductive ChangeError where
  | edit (reason : String)
  | invalid
  | value (reason : String)
deriving DecidableEq

def ChangeError.isConfigEdit : ChangeError → Bool
  | .value _ => false
  | _ => true

def OsError.strerror : OsError → String
  | .permission => "Permission denied"
  | .other reason => reason

def OsError.message (path : String) : OsError → String
  | .permission => "cannot write next to " ++ path ++ "; run with sudo"
  | .other reason => "cannot write " ++ path ++ ": " ++ reason

abbrev Change (Text : Type) := Text → Except ChangeError Text

section File

variable {Text : Type} [DecidableEq Text]

def writeLike (text : Text) (write : WriteOutcome) (file : Text) : Text × Except OsError Bool :=
  if file = text then (file, .ok false)
  else
    match write with
    | .replaced => (text, .ok true)
    | .refused e => (file, .error e)
    | .unsynced e => (text, .error e)

def editFile (path : String) (validate : Text → Option Config) (change : Change Text)
    (write : WriteOutcome) (file : Text) : Text × Except ChangeError (Config × Bool) :=
  match change file with
  | .error e => (file, .error e)
  | .ok text =>
    match validate text with
    | none => (file, .error .invalid)
    | some config =>
      match writeLike text write file with
      | (file, .ok changed) => (file, .ok (config, changed))
      | (file, .error e) => (file, .error (.edit (e.message path)))

end File

def noRoutingSection (path : String) : String :=
  path ++ " has no routing section: a box of this role routes no LAN"

namespace Document

def routingSection (path : String) (d : Document) : Except ChangeError RoutingNode :=
  match d.routing with
  | none => .error (.edit (noRoutingSection path))
  | some routing => .ok routing

def upstreamsSection (path : String) (d : Document) : Except ChangeError UpstreamsNode :=
  match d.upstreams with
  | none => .error (.edit (path ++ " has no upstreams section: a box of this role has no uplink"))
  | some upstreams => .ok upstreams

def foundOr {α : Type} (reason : String) : Option α → Except ChangeError α
  | none => .error (.edit reason)
  | some a => .ok a

def valueOr {α : Type} (reason : String) : Option α → Except ChangeError α
  | none => .error (.value reason)
  | some a => .ok a

end Document

open Document

def setRouting (path : String) (mode : Option RoutingMode) (upstream : Option String) :
    Change Document := fun d => do
  let routing ← d.routingSection path
  return { d with routing := some { routing with
    mode := mode.getD routing.mode, defaultUpstream := upstream.getD routing.defaultUpstream } }

def DomainChannel.node (c : DomainChannel) : ChannelNode :=
  { via := c.via, country := c.country.map Subtype.val, uplink := c.uplink.map Subtype.val }

def DomainRule.node (rule : DomainRule) : DomainNode :=
  { rule.toDomainChannel.node with
    domain := rule.domain.val, learn := rule.learn, also := rule.also.map Subtype.val }

def NetworkRule.node (rule : NetworkRule) : NetworkNode :=
  { rule.toDomainChannel.node with network := rule.network.str }

def DomainList.node (item : DomainList) : ListNode :=
  { item.toDomainChannel.node with url := item.url.val }

def setDomainRule (path : String) (rule : DomainRule) : Change Document := fun d => do
  let routing ← d.routingSection path
  let rules := alterFirst (fun item => lower item.domain = rule.domain.val) (fun _ => rule.node)
    rule.node (routing.domains.getD [])
  return { d with routing := some { routing with domains := some rules } }

def removeDomainRule (path : String) (domain : String) : Change Document := fun d => do
  let wanted ← valueOr (quoted domain ++ " is not a domain name") (normalizeDomain domain)
  let routing ← d.routingSection path
  let rules ← foundOr ("config.yaml has no rule for " ++ wanted.val)
    (dropFirst (fun item => lower item.domain = wanted.val) (routing.domains.getD []))
  return { d with routing := some { routing with domains := some rules } }

def setNetworkRule (path : String) (rule : NetworkRule) : Change Document := fun d => do
  let routing ← d.routingSection path
  let networks := alterFirst (fun item => item.network = rule.network.str) (fun _ => rule.node)
    rule.node (routing.networks.getD [])
  return { d with routing := some { routing with networks := some networks } }

def removeNetworkRule (path : String) (network : String) : Change Document := fun d => do
  let routing ← d.routingSection path
  let networks ← foundOr ("config.yaml has no network rule for " ++ network)
    (dropFirst (fun item => item.network = network) (routing.networks.getD []))
  return { d with routing := some { routing with networks := some networks } }

def setDomainList (path : String) (item : DomainList) : Change Document := fun d => do
  let routing ← d.routingSection path
  let lists := alterFirst (fun existing => existing.url = item.url.val) (fun _ => item.node)
    item.node (routing.lists.getD [])
  return { d with routing := some { routing with lists := some lists } }

def removeDomainList (path : String) (url : String) : Change Document := fun d => do
  let routing ← d.routingSection path
  let lists ← foundOr ("config.yaml has no domain list " ++ url)
    (dropFirst (fun existing => existing.url = url) (routing.lists.getD []))
  return { d with routing := some { routing with lists := some lists } }

inductive DeviceIdent where
  | mac (mac : Mac)
  | ip (ip : IPv4Address)
deriving DecidableEq

def DeviceIdent.matches (ident : DeviceIdent) (entry : DeviceNode) : Bool :=
  match ident with
  | .mac m =>
    match entry.mac with
    | none => false
    | some text => normalizeMac text = some m
  | .ip a =>
    match entry.ip with
    | none => false
    | some node => node.str = a.str

def DeviceIdent.text : DeviceIdent → String
  | .mac m => m.val
  | .ip a => a.str

def DeviceIdent.node (ident : DeviceIdent) (name : String) (policy : DevicePolicy) : DeviceNode :=
  match ident with
  | .mac m => { name := name, mac := some m.val, policy := policy }
  | .ip a => { name := name, ip := some (.text a.str), policy := policy }

-- an empty name counts as none for a new entry
def newName (name : Option String) (defaultName : String) : String :=
  match name with
  | none => defaultName
  | some name => if name = "" then defaultName else name

def setDevice (ident : DeviceIdent) (policy : DevicePolicy) (name : Option String)
    (defaultName : String) : Change Document := fun d =>
  .ok { d with devices := some (alterFirst ident.matches
    (fun entry => { entry with policy := policy, name := name.getD entry.name })
    (ident.node (newName name defaultName) policy) (d.devices.getD [])) }

def unsetDevice (ident : DeviceIdent) : Change Document := fun d => do
  let devices ← foundOr ("config.yaml has no device " ++ ident.text)
    (dropFirst ident.matches (d.devices.getD []))
  return { d with devices := some devices }

def setTorUplink (path : String) (enabled : Bool) : Change Document := fun d => do
  let upstreams ← d.upstreamsSection path
  let tor := { upstreams.tor with enabled := enabled }
  return { d with upstreams := some { upstreams with tor := tor } }

def setWgUplink (path : String) (name : String) (enabled : Bool) : Change Document := fun d => do
  let upstreams ← d.upstreamsSection path
  let uplinks := upstreams.wg.getD Dict.empty
  let entry : WgUplink :=
    match uplinks.get? name with
    | some entry => { entry with enabled := enabled }
    | none => { enabled := enabled }
  return { d with upstreams := some { upstreams with wg := some (uplinks.set name entry) } }

def removeWgUplink (path : String) (name : String) : Change Document := fun d => do
  let upstreams ← d.upstreamsSection path
  let uplinks := upstreams.wg.getD Dict.empty
  if name ∈ uplinks.keys then
    return { d with upstreams := some { upstreams with wg := some (uplinks.erase name) } }
  else .error (.edit (path ++ " has no WireGuard exit named " ++ quoted name))

inductive Edit where
  | setDomainRule (rule : DomainRule)
  | removeDomainRule (domain : String)
  | setNetworkRule (rule : NetworkRule)
  | removeNetworkRule (network : String)
  | setDomainList (item : DomainList)
  | removeDomainList (url : String)
  | setDevice (ident : DeviceIdent) (policy : DevicePolicy) (name : Option String)
      (defaultName : String)
  | unsetDevice (ident : DeviceIdent)
  | setWgUplink (name : String) (enabled : Bool)
  | removeWgUplink (name : String)

def Edit.change (path : String) : Edit → Change Document
  | .setDomainRule rule => VibeDPN.setDomainRule path rule
  | .removeDomainRule domain => VibeDPN.removeDomainRule path domain
  | .setNetworkRule rule => VibeDPN.setNetworkRule path rule
  | .removeNetworkRule network => VibeDPN.removeNetworkRule path network
  | .setDomainList item => VibeDPN.setDomainList path item
  | .removeDomainList url => VibeDPN.removeDomainList path url
  | .setDevice ident policy name defaultName => VibeDPN.setDevice ident policy name defaultName
  | .unsetDevice ident => VibeDPN.unsetDevice ident
  | .setWgUplink name enabled => VibeDPN.setWgUplink path name enabled
  | .removeWgUplink name => VibeDPN.removeWgUplink path name

def Edit.run (path : String) (op : Edit) (d : Document) :
    Document × Except ChangeError (Config × Bool) :=
  editFile path Document.validate (op.change path) .replaced d

end VibeDPN
