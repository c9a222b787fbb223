import VibeDPN.Lib.Inet
import VibeDPN.Config.Names

namespace VibeDPN

open Text Inet

-- the zeros of the blocks of ten decimal digits that \d matches
def decimalZeros : List Nat :=
  [0x30, 0x660, 0x6f0, 0x7c0, 0x966, 0x9e6, 0xa66, 0xae6, 0xb66, 0xbe6, 0xc66, 0xce6, 0xd66, 0xde6,
    0xe50, 0xed0, 0xf20, 0x1040, 0x1090, 0x17e0, 0x1810, 0x1946, 0x19d0, 0x1a80, 0x1a90, 0x1b50,
    0x1bb0, 0x1c40, 0x1c50, 0xa620, 0xa8d0, 0xa900, 0xa9d0, 0xa9f0, 0xaa50, 0xabf0, 0xff10, 0x104a0,
    0x10d30, 0x11066, 0x110f0, 0x11136, 0x111d0, 0x112f0, 0x11450, 0x114d0, 0x11650, 0x116c0,
    0x11730, 0x118e0, 0x11950, 0x11c50, 0x11d50, 0x11da0, 0x11f50, 0x16a60, 0x16ac0, 0x16b50,
    0x1d7ce, 0x1d7d8, 0x1d7e2, 0x1d7ec, 0x1d7f6, 0x1e140, 0x1e2f0, 0x1e4f0, 0x1e950, 0x1fbf0]

def decimalValue (c : Char) : Option Nat :=
  (decimalZeros.find? (fun base => base ≤ c.toNat ∧ c.toNat ≤ base + 9)).map (c.toNat - ·)

def parseDecimal (s : String) : Option Nat :=
  (s.toList.mapM decimalValue).map (List.foldl (fun n d => 10 * n + d) 0)

abbrev Port := {n : Nat // 1 ≤ n ∧ n ≤ 65535}

def parsePort (s : String) : Option Nat :=
  if 1 ≤ s.toList.length ∧ s.toList.length ≤ 5 then parseDecimal s else none

def parsePortRange (value : String) : Option (Nat × Nat) :=
  match split '-' value with
  | [a, b] => (parsePort a).bind fun start => (parsePort b).bind fun last =>
      if 1 ≤ start ∧ start ≤ last ∧ last ≤ 65535 then some (start, last) else none
  | _ => none

def isPortRange (s : String) : Bool := (parsePortRange s).isSome

abbrev PortRange := {s : String // isPortRange s = true}

def PortRange.bounds (r : PortRange) : Nat × Nat := (parsePortRange r.val).get r.property

inductive Traversal where
  | manual | upnp | holepunching
deriving DecidableEq, Repr

def Traversal.value : Traversal → String
  | .manual => "manual"
  | .upnp => "upnp"
  | .holepunching => "holepunching"

def defaultUdpPorts : PortRange := ⟨"56000-56100", by decide⟩

def defaultTraversal : List Traversal := [.manual, .upnp, .holepunching]

theorem defaultTraversal_checked : defaultTraversal ≠ [] ∧ defaultTraversal.Nodup := by decide

structure ProviderConfig where
  enabled : Bool := false
  udpPorts : PortRange := defaultUdpPorts
  traversal : List Traversal := defaultTraversal
  checked : traversal ≠ [] ∧ traversal.Nodup := by exact defaultTraversal_checked
deriving DecidableEq

def isHostLabel (l : List Char) : Bool :=
  1 ≤ l.length && l.length ≤ 63 &&
    l.all (fun c => isLabelChar c || ('A' ≤ c && c ≤ 'Z')) && l.head? ≠ some '-' &&
      l.getLast? ≠ some '-'

def isHostname (s : String) : Bool :=
  s.toList.length ≤ 253 && (s.toList.splitOn '.').all isHostLabel

def looksNumeric (s : String) : Bool := s.toList.all (fun c => isNumber c || c = '.')

def isEndpoint (s : String) : Bool :=
  (parseAddress s).isSome || (isHostname s && !looksNumeric s)

abbrev Endpoint := {s : String // isEndpoint s = true}

def minWgSubnetAddresses : Nat := 4

abbrev WgSubnet := {n : IPv4Network // minWgSubnetAddresses ≤ n.numAddresses}

def defaultWgSubnet : WgSubnet := ⟨⟨0x0A4E0000#32, 24, slash24_le, by decide⟩, by decide⟩

def defaultWgPort : Port := ⟨51820, by decide⟩

structure WgServerConfig where
  endpoint : Endpoint
  subnet : WgSubnet := defaultWgSubnet
  listenPort : Port := defaultWgPort
deriving DecidableEq

inductive UiVariant where
  | full | lite
deriving DecidableEq, Repr

def UiVariant.value : UiVariant → String
  | .full => "full"
  | .lite => "lite"

def isLanguage (s : String) : Bool := s.toList.length = 2 && s.toList.all isLower

abbrev Language := {s : String // isLanguage s = true}

def defaultUiPort : Port := ⟨80, by decide⟩

def defaultUiHostName : DomainName := ⟨"vibedpn.lan", by decide⟩

def defaultUiLanguage : Language := ⟨"ru", by decide⟩

structure UiConfig where
  enabled : Bool := true
  port : Port := defaultUiPort
  variant : UiVariant := .full
  hostName : DomainName := defaultUiHostName
  language : Language := defaultUiLanguage
deriving DecidableEq

def defaultApiPort : Port := ⟨4480, by decide⟩

structure ApiConfig where
  port : Port := defaultApiPort
deriving DecidableEq

def defaultSshPort : Port := ⟨22, by decide⟩

theorem defaultSsh_checked : [defaultSshPort] ≠ [] ∧ [defaultSshPort].Nodup :=
  ⟨List.cons_ne_nil _ _, List.nodup_singleton _⟩

theorem noPorts_nodup : ([] : List Port).Nodup := List.nodup_nil

structure FirewallConfig where
  enabled : Bool := true
  sshPorts : List Port := [defaultSshPort]
  allowTcp : List Port := []
  allowUdp : List Port := []
  ssh_checked : sshPorts ≠ [] ∧ sshPorts.Nodup := by exact defaultSsh_checked
  tcp_unique : allowTcp.Nodup := by exact noPorts_nodup
  udp_unique : allowUdp.Nodup := by exact noPorts_nodup
deriving DecidableEq

inductive NetworkMode where
  | sidecar | gateway
deriving DecidableEq, Repr

inductive WifiBand where
  | band24 | band5
deriving DecidableEq, Repr

inductive WifiSecurity where
  | wpa2Wpa3 | wpa3
deriving DecidableEq, Repr

def wifiChannels : WifiBand → List Nat
  | .band24 => List.range' 1 13
  | .band5 => List.range' 36 130

def ssidMaxBytes : Nat := 32

def isSsid (s : String) : Bool :=
  s ≠ "" && s.utf8ByteSize ≤ ssidMaxBytes && '\n' ∉ s.toList

abbrev Ssid := {s : String // isSsid s = true}

structure WifiConfig where
  ssid : Ssid
  country : Country
  band : WifiBand := .band24
  channel : Nat := 6
  security : WifiSecurity := .wpa2Wpa3
  channel_mem : channel ∈ wifiChannels band := by decide
deriving DecidableEq

def isLease (s : String) : Bool :=
  let digits := s.toList.takeWhile (fun c => (decimalValue c).isSome)
  s = "infinite" || (digits ≠ [] &&
    s.toList.drop digits.length ∈ [[], ['m'], ['h'], ['d'], ['w']])

abbrev Lease := {s : String // isLease s = true}

def defaultLease : Lease := ⟨"12h", by decide⟩

structure DhcpConfig where
  rangeStart : Option IPv4Address := none
  rangeEnd : Option IPv4Address := none
  lease : Lease := defaultLease
deriving DecidableEq

def isInterface (s : String) : Bool :=
  1 ≤ s.toList.length && s.toList.length ≤ 15 &&
    s.toList.all (fun c => isLower c || ('A' ≤ c && c ≤ 'Z') || isNumber c || c ∈ ['_', '.', '-'])

structure NetworkSection where
  mode : NetworkMode := .sidecar
  lanInterface : String
  lanSubnet : IPv4Network
  lanAddress : IPv4Address
  wanInterface : Option String := none
  dhcp : Option DhcpConfig := none
  wifi : Option WifiConfig := none
deriving DecidableEq

namespace NetworkSection

def dhcpPoolFirstOffset : Nat := 100

def dhcpPoolLastMargin : Nat := 5

def minDhcpSubnetPrefix : Nat := 28

def lastPrefixWithBroadcast : Nat := 30

-- the size is that of a subnet with host addresses: check_dhcp has refused the others
def dhcpPool (n : NetworkSection) : IPv4Address × IPv4Address :=
  let first := n.lanSubnet.address + 1
  let last := n.lanSubnet.broadcast - 1
  let size := last.toNat - first.toNat + 1
  let dhcp := n.dhcp.getD {}
  (dhcp.rangeStart.getD (first + BitVec.ofNat 32 (min (dhcpPoolFirstOffset - 1) (size / 2))),
    dhcp.rangeEnd.getD (last - BitVec.ofNat 32 (min dhcpPoolLastMargin (size / 4))))

def patternErrors (n : NetworkSection) : List String :=
  (n.lanInterface :: n.wanInterface.toList).filterMap fun name =>
    if isInterface name then none
    else some "String should match pattern '^[A-Za-z0-9_.-]{1,15}$'"

def wifiErrors (n : NetworkSection) : List String :=
  if n.wifi.isSome ∧ n.mode ≠ .gateway then
    ["network.wifi is only used with network.mode 'gateway'"]
  else []

def dhcpErrors (n : NetworkSection) : List String :=
  if n.dhcp.isSome ∧ n.mode ≠ .gateway then
    ["network.dhcp is only used with network.mode 'gateway'"]
  else if n.mode ≠ .gateway then []
  else if n.lanSubnet.prefixlen > minDhcpSubnetPrefix then
    ["network.lan_subnet " ++ n.lanSubnet.str ++
      " is too small for DHCP in gateway mode (at most /" ++ toString minDhcpSubnetPrefix ++ ")"]
  else
    let (start, last) := n.dhcpPool
    if ¬ (n.lanSubnet.address + 1 ≤ start ∧ start ≤ last ∧ last ≤ n.lanSubnet.broadcast - 1) then
      ["network.dhcp range " ++ start.str ++ "-" ++ last.str ++
        " is not an ordered range of host addresses of network.lan_subnet " ++ n.lanSubnet.str]
    else if start ≤ n.lanAddress ∧ n.lanAddress ≤ last then
      ["network.lan_address " ++ n.lanAddress.str ++ " lies inside the DHCP range " ++ start.str ++
        "-" ++ last.str]
    else []

def lanAddressErrors (n : NetworkSection) : List String :=
  let reserved := if n.lanSubnet.prefixlen ≤ lastPrefixWithBroadcast then
    [n.lanSubnet.address, n.lanSubnet.broadcast] else []
  if n.lanSubnet.contains n.lanAddress = false ∨ n.lanAddress ∈ reserved then
    ["network.lan_address " ++ n.lanAddress.str ++
      " is not a host address of network.lan_subnet " ++ n.lanSubnet.str]
  else []

def interfaceErrors (n : NetworkSection) : List String :=
  if n.mode = .gateway ∧ n.wanInterface = none then
    ["network.mode 'gateway' requires network.wan_interface"]
  else if n.mode = .sidecar ∧ n.wanInterface ≠ none then
    ["network.wan_interface is only used with network.mode 'gateway'"]
  else if n.wanInterface = some n.lanInterface then
    ["network.wan_interface must differ from network.lan_interface"]
  else []

def errors (n : NetworkSection) : List String :=
  n.patternErrors ++ n.wifiErrors ++ n.dhcpErrors ++ n.lanAddressErrors ++ n.interfaceErrors

end NetworkSection

structure NetworkConfig extends NetworkSection where
  valid : toNetworkSection.errors = []
deriving DecidableEq

end VibeDPN
