import VibeDPN.Lib.Dict
import VibeDPN.Lib.Inet
import VibeDPN.Lib.Runs
import VibeDPN.Lib.Spaced
import VibeDPN.Images.WgConf

namespace VibeDPN

open Text Inet WgConf

namespace Dict

variable {α β : Type*}

theorem nodup_filter (d : Dict α β) (p : α × β → Bool) :
    ((d.entries.filter p).map Prod.fst).Nodup :=
  d.nodup.sublist (List.filter_sublist.map _)

def retain (d : Dict α β) (p : α → β → Bool) : Dict α β :=
  ⟨d.entries.filter fun e => p e.1 e.2, d.nodup_filter _⟩

theorem get?_retain [DecidableEq α] (d : Dict α β) (p : α → β → Bool) (k : α) :
    (d.retain p).get? k = (d.get? k).filter (p k) := by
  ext v
  rw [get?_eq_some_iff, Option.filter_eq_some_iff,
    get?_eq_some_iff, retain, List.mem_filter]

end Dict

namespace WgGateway

inductive Mode where
  | server | client
deriving DecidableEq

def fwmark : String := "51820"
def returnRulePriority : Nat := 100

-- what wg(8) prints of an allowed address: an IPv4 network, or an IPv6 one with its colons
inductive AllowedIp where
  | v4 (network : IPv4Network)
  | v6 (text : String) (colon : ':' ∈ text.toList) (plain : ' ' ∉ text.toList)

def AllowedIp.str : AllowedIp → String
  | .v4 network => network.str
  | .v6 text _ _ => text

structure WgPeer where
  publicKey : String
  allowedIps : List AllowedIp

structure InterfaceAddress where
  address : IPv4Address
  prefixlen : Nat
  prefix_le : prefixlen ≤ 32

def InterfaceAddress.key (a : InterfaceAddress) : IPv4Address × Nat := (a.address, a.prefixlen)

-- what the script leaves to wg(8), ip(8) and the kernel: the peers of a file, an address and
-- the network routed for it once the interface is up, an MTU
structure Tools where
  wg : List String → Option (List WgPeer)
  address : String → Option InterfaceAddress
  connected : InterfaceAddress → Option IPv4Network
  mtu : String → Bool

inductive Origin where
  | kernel | boot
deriving DecidableEq

inductive RuleKind where
  | localTable | main | default | returnMark | notFwmark | suppress
deriving DecidableEq

structure PolicyRule where
  priority : Nat
  kind : RuleKind
deriving DecidableEq

def kernelPolicy : List PolicyRule := [⟨0, .localTable⟩, ⟨32766, .main⟩, ⟨32767, .default⟩]

-- a rule added without a priority goes before the second one
def freshPriority : List PolicyRule → Nat
  | _ :: r :: _ => r.priority - 1
  | _ => 0

def insertPolicy (r : PolicyRule) : List PolicyRule → List PolicyRule
  | [] => [r]
  | x :: rules => if r.priority < x.priority then r :: x :: rules else x :: insertPolicy r rules

def addPolicy (kind : RuleKind) (rules : List PolicyRule) : List PolicyRule :=
  insertPolicy ⟨freshPriority rules, kind⟩ rules

def isOurs (r : PolicyRule) : Bool :=
  r.kind = .returnMark || r.kind = .notFwmark || r.kind = .suppress

def removePolicyRules (rules : List PolicyRule) : List PolicyRule := rules.filter (!isOurs ·)

structure Gateway where
  mode : Mode
  interface : List String
  peers : List WgPeer
  routes : Dict IPv4Network Origin
  tunnelTable : Bool
  rules : List PolicyRule

def allowedIps (peers : List WgPeer) : List String :=
  peers.flatMap fun p => if p.allowedIps.isEmpty then ["(none)"] else p.allowedIps.map AllowedIp.str

namespace Gateway

def routeEverything (g : Gateway) : Gateway :=
  { g with
    tunnelTable := true
    rules := insertPolicy ⟨returnRulePriority, .returnMark⟩
      (addPolicy .suppress (addPolicy .notFwmark (removePolicyRules g.rules))) }

def addRoute (g : Gateway) (cidr : String) : Except String Gateway :=
  if cidr = "0.0.0.0/0" then
    match g.mode with
    | .client => .ok g.routeEverything
    | .server => .error ("AllowedIPs 0.0.0.0/0 in a server config would rewrite the routing of " ++
        "the VPS itself")
  else if cidr.toList.contains ':' then .ok g
  else
    match parseNetwork cidr with
    | some n => .ok { g with routes := g.routes.set n .boot }
    | none => .error "ip route replace"

def addRoutes (g : Gateway) : Except String Gateway := (allowedIps g.peers).foldlM addRoute g

-- ip prints a host route without its length
def shownRoute (n : IPv4Network) : String :=
  if n.prefixlen = 32 then n.address.str else n.str

def routeCidr (route : String) : String :=
  if route.toList.contains '/' then route else route ++ "/32"

def wantedText (peers : List WgPeer) : List Char :=
  ' ' :: Spaced.spaced ((allowedIps peers).map String.toList) ++ [' ']

def isWanted (peers : List WgPeer) (n : IPv4Network) : Bool :=
  Spaced.found (' ' :: (routeCidr (shownRoute n)).toList ++ [' ']) (wantedText peers)

def syncRoutes (g : Gateway) : Except String Gateway := do
  let g ← g.addRoutes
  return { g with routes := g.routes.retain fun n origin => origin = .kernel || isWanted g.peers n }

end Gateway

def configFwmark : Mode → String
  | .client => fwmark
  | .server => ""

def addressTokens (text : String) : List String :=
  (valuesOf "address" text).flatMap fun value =>
    ((value.toList.splitOnP fun c => c = ',' || isPad c).filter (· ≠ [])).map String.ofList

def addAddress (tools : Tools) (addresses : List InterfaceAddress) (token : String) :
    Except String (List InterfaceAddress) :=
  match tools.address token with
  | none => .error "ip address add"
  | some a => if (addresses.map InterfaceAddress.key).contains a.key then .error "ip address add"
    else .ok (addresses ++ [a])

def isIPv4Token (token : String) : Bool := !token.toList.contains ':'

def interfaceAddresses (tools : Tools) (text : String) : Except String (List InterfaceAddress) :=
  if (valuesOf "address" text).isEmpty then .error "has no Address in its [Interface] section"
  else do
    let addresses ← ((addressTokens text).filter isIPv4Token).foldlM (addAddress tools) []
    if addresses.isEmpty then .error "gives wg0 no IPv4 address" else .ok addresses

def mtuAccepted (tools : Tools) (text : String) : Bool :=
  match (valuesOf "mtu" text).getLast? with
  | some value => tools.mtu value
  | none => true

def connectedNetworks (tools : Tools) (addresses : List InterfaceAddress) : List IPv4Network :=
  addresses.filterMap tools.connected

def setupInterface (tools : Tools) (mode : Mode) (text : String) : Except String Gateway :=
  match tools.wg (stripped (configFwmark mode) text) with
  | none => .error "is not a valid WireGuard configuration"
  | some peers => do
    let addresses ← interfaceAddresses tools text
    if mtuAccepted tools text then
      Gateway.addRoutes
        { mode := mode
          interface := interfaceSection text
          peers := peers
          routes := Dict.empty.update ((connectedNetworks tools addresses).map (·, .kernel))
          tunnelTable := false
          rules := kernelPolicy }
    else .error "ip link set mtu"

def applyConfigChange (tools : Tools) (g : Gateway) (text : String) : Except String Gateway :=
  if interfaceSection text ≠ g.interface then
    .error "changed its [Interface] section; rebuilding the tunnel from it"
  else
    match tools.wg (stripped (configFwmark g.mode) text) with
    | none => .error "wg syncconf rejected it; rebuilding the tunnel"
    | some peers => { g with peers := peers }.syncRoutes

end WgGateway

end VibeDPN
