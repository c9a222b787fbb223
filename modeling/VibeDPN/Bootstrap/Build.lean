import VibeDPN.ConfigEdit.Document

namespace VibeDPN

open Text Inet

@[ext] structure Interface where
  name : String
  address : IPv4Address
  prefixlen : Nat
  prefix_le : prefixlen ≤ 32

instance : DecidableEq Interface := fun a b =>
  decidable_of_iff (a.name = b.name ∧ a.address = b.address ∧ a.prefixlen = b.prefixlen)
    Interface.ext_iff.symm

def Interface.subnet (i : Interface) : IPv4Network :=
  let size := 2 ^ (32 - i.prefixlen)
  { address := BitVec.ofNat 32 (i.address.toNat / size * size)
    prefixlen := i.prefixlen
    prefix_le := i.prefix_le
    strict := by
      have hlt : i.address.toNat / size * size < 2 ^ 32 :=
        Nat.lt_of_le_of_lt (Nat.div_mul_le_self _ _) i.address.isLt
      rw [BitVec.toNat_ofNat, Nat.mod_eq_of_lt hlt]
      exact Nat.mul_mod_left _ _ }

-- wifi: the answers hold it validated, its name stripped
structure Answers where
  role : Role
  endpoint : Option String := none
  uiVariant : Option UiVariant := none
  lanInterface : Option String := none
  wifi : Option WifiConfig := none
  wifi_stripped : ∀ w ∈ wifi, trim w.ssid.val = w.ssid.val := by simp

structure HostFacts where
  interface : Option Interface
  sshPorts : List Int := [22]
  memoryBytes : Option Nat := none
  interfaces : List Interface := []

-- bootstrap: a reason for the owner; validation: what pydantic raises through build_config
inductive BuildError where
  | bootstrap (reason : String)
  | validation (errors : List String)
deriving DecidableEq

def inNetwork (a : IPv4Address) (network : BitVec 32 × Nat) : Bool :=
  a.toNat / 2 ^ (32 - network.2) = network.1.toNat / 2 ^ (32 - network.2)

def privateNetworks : List (BitVec 32 × Nat) :=
  [(0x00000000#32, 8), (0x0A000000#32, 8), (0x7F000000#32, 8), (0xA9FE0000#32, 16),
    (0xAC100000#32, 12), (0xC0000000#32, 24), (0xC00000AA#32, 31), (0xC0000200#32, 24),
    (0xC0A80000#32, 16), (0xC6120000#32, 15), (0xC6336400#32, 24), (0xCB007100#32, 24),
    (0xF0000000#32, 4), (0xFFFFFFFF#32, 32)]

def privateExceptions : List (BitVec 32 × Nat) := [(0xC0000009#32, 32), (0xC000000A#32, 32)]

def isPrivate (a : IPv4Address) : Bool :=
  privateNetworks.any (inNetwork a) && !privateExceptions.any (inNetwork a)

def isGlobal (a : IPv4Address) : Bool := !inNetwork a (0x64400000#32, 10) && !isPrivate a

def publicAddress (facts : HostFacts) : Option String :=
  match facts.interface with
  | some i => if isGlobal i.address then some i.address.str else none
  | none => none

def liteBelowMemoryBytes : Nat := 4 * 1024 ^ 3

def uiVariantFor (answers : Answers) (facts : HostFacts) : UiVariant :=
  match answers.uiVariant, facts.memoryBytes with
  | some variant, _ => variant
  | none, some bytes => if bytes < liteBelowMemoryBytes then .lite else .full
  | none, none => .full

def checkEndpoint (value : String) : Except String Endpoint :=
  match check isEndpoint value with
  | some endpoint => .ok endpoint
  | none => .error (quoted value ++ " is not a hostname or IPv4 address")

def portErrors (ports : List Int) : List String :=
  ports.filterMap fun p =>
    if p < 1 then some "Input should be greater than or equal to 1"
    else if 65535 < p then some "Input should be less than or equal to 65535"
    else none

def toPort (p : Int) : Option Port :=
  if h : 1 ≤ p.toNat ∧ p.toNat ≤ 65535 then some ⟨p.toNat, h⟩ else none

def firewallFor (sshPorts : List Int) : Except BuildError FirewallConfig :=
  let ports := sshPorts.filterMap toPort
  if portErrors sshPorts ≠ [] then .error (.validation (portErrors sshPorts))
  else if hd : ports.Nodup then
    if hne : ports ≠ [] then .ok { sshPorts := ports, ssh_checked := ⟨hne, hd⟩ }
    else .error (.validation
      ["Value error, firewall.ssh_ports must keep at least one port, or you lock yourself out"])
  else .error (.validation ["Value error, a port is listed twice"])

def NetworkSection.validate (n : NetworkSection) : Option NetworkConfig :=
  if h : n.errors = [] then some ⟨n, h⟩ else none

def NetworkSection.messages (n : NetworkSection) : List String :=
  if n.patternErrors ≠ [] then n.patternErrors else (n.errors.take 1).map ("Value error, " ++ ·)

def sidecarFor (default : Interface) : Except BuildError NetworkConfig :=
  let network : NetworkSection :=
    { lanInterface := trim default.name, lanSubnet := default.subnet,
      lanAddress := default.address }
  match network.validate with
  | some n => .ok n
  | none => .error (.validation network.messages)

def gatewayFor (default lan : Interface) (wifi : Option WifiConfig) (pool : Option DhcpConfig) :
    Except BuildError NetworkConfig :=
  let network : NetworkSection :=
    { mode := .gateway, lanInterface := trim lan.name, lanSubnet := lan.subnet,
      lanAddress := lan.address, wanInterface := some (trim default.name), dhcp := pool,
      wifi := wifi }
  match network.validate with
  | some n => .ok n
  | none => .error (.bootstrap ("network: " ++ network.messages.headD ""))

def noAddress (lanInterface : String) (interfaces : List Interface) (default : Interface) :
    String :=
  let others := (interfaces.filter (· ≠ default)).map fun i =>
    i.name ++ " (" ++ i.address.str ++ "/" ++ toString i.prefixlen ++ ")"
  "LAN interface " ++ lanInterface ++ " has no IPv4 address; give it a static one first " ++
    "(docs/manuals/installation.md, gateway mode). With an address: " ++
    (if others = [] then "none" else commaJoin others)

-- dhcp: the pool of an unchanged LAN; the default one is written out
def networkFor (lanInterface : Option String) (interfaces : List Interface) (default : Interface)
    (wifi : Option WifiConfig) (dhcp : Option DhcpConfig) : Except BuildError NetworkConfig :=
  match lanInterface.filter (· ≠ default.name) with
  | none =>
    if wifi.isSome then
      .error (.bootstrap "Wi-Fi needs a LAN interface other than the default-route one")
    else sidecarFor default
  | some name =>
    match interfaces.find? (·.name = name) with
    | none => .error (.bootstrap (noAddress name interfaces default))
    | some lan =>
      match dhcp with
      | some pool => gatewayFor default lan wifi (some pool)
      | none => do
        let (start, last) := (← gatewayFor default lan wifi none).dhcpPool
        gatewayFor default lan wifi (some { rangeStart := some start, rangeEnd := some last })

def validated (fields : Fields) : Except BuildError Config :=
  match fields.validate with
  | some c => .ok c
  | none => .error (.bootstrap (": Value error, " ++ String.intercalate "; " fields.errors))

def vpsKey : UplinkKey := ⟨"vps", by decide⟩

def vpsFields (endpoint : Endpoint) (firewall : FirewallConfig) : Fields :=
  { role := .vps, provider := { enabled := true }, wgServer := some { endpoint := endpoint },
    firewall := firewall }

def homeFields (network : NetworkConfig) (variant : UiVariant) : Fields :=
  { role := .home, network := some network, ui := { variant := variant },
    routing := some { defaultUpstream := dpnKey }, upstreams := { dpn := { enabled := true } },
    provider := { enabled := true } }

def clientFields (network : NetworkConfig) (variant : UiVariant) : Fields :=
  { role := .client, network := some network, ui := { variant := variant },
    routing := some { defaultUpstream := vpsKey }, upstreams := { vps := { enabled := true } } }

def buildVps (answers : Answers) (facts : HostFacts) : Except BuildError Config :=
  match (answers.endpoint.filter (· ≠ "")).or (publicAddress facts) with
  | none => .error (.bootstrap
      "the public address of this VPS could not be detected; pass --endpoint <host or IPv4>")
  | some endpoint =>
    match checkEndpoint endpoint with
    | .error reason => .error (.bootstrap
        ("endpoint: " ++ reason ++ "; give the host without a port"))
    | .ok e => do validated (vpsFields e (← firewallFor facts.sshPorts))

def buildConfig (answers : Answers) (facts : HostFacts) : Except BuildError Config :=
  match answers.role, facts.interface with
  | .vps, _ => buildVps answers facts
  | _, none => .error (.bootstrap
      "no interface with a default route was found; connect the box to the LAN first")
  | .home, some default => do
    let network ← networkFor answers.lanInterface facts.interfaces default answers.wifi none
    validated (homeFields network (uiVariantFor answers facts))
  | .client, some default => do
    let network ← networkFor answers.lanInterface facts.interfaces default answers.wifi none
    validated (clientFields network (uiVariantFor answers facts))

theorem validate_section {n : NetworkSection} {network : NetworkConfig}
    (h : n.validate = some network) : network.toNetworkSection = n := by
  rw [NetworkSection.validate] at h
  split at h
  · cases h
    rfl
  · cases h

theorem validated_eq_ok {fields : Fields} {c : Config} (h : validated fields = .ok c) :
    c.toFields = fields := by
  rw [validated] at h
  cases hv : fields.validate with
  | none => simp [hv] at h
  | some d =>
    rw [hv] at h
    cases h
    exact (Fields.validate_eq_some.mp hv).symm

theorem sidecarFor_section {default : Interface} {n : NetworkConfig}
    (h : sidecarFor default = .ok n) :
    n.toNetworkSection =
      { lanInterface := trim default.name, lanSubnet := default.subnet,
        lanAddress := default.address } := by
  simp only [sidecarFor] at h
  split at h
  next m hm =>
    cases h
    exact validate_section hm
  next => cases h

theorem gatewayFor_section {default lan : Interface} {wifi : Option WifiConfig}
    {pool : Option DhcpConfig} {n : NetworkConfig} (h : gatewayFor default lan wifi pool = .ok n) :
    n.toNetworkSection =
      { mode := .gateway, lanInterface := trim lan.name, lanSubnet := lan.subnet,
        lanAddress := lan.address, wanInterface := some (trim default.name), dhcp := pool,
        wifi := wifi } := by
  simp only [gatewayFor] at h
  split at h
  next m hm =>
    cases h
    exact validate_section hm
  next => cases h

theorem networkFor_section {lanInterface : Option String} {interfaces : List Interface}
    {default : Interface} {wifi : Option WifiConfig} {n : NetworkConfig}
    (h : networkFor lanInterface interfaces default wifi none = .ok n) :
    (lanInterface.filter (· ≠ default.name) = none ∧ n.toNetworkSection =
      { lanInterface := trim default.name, lanSubnet := default.subnet,
        lanAddress := default.address }) ∨
    ∃ (lan : Interface) (start last : IPv4Address), lanInterface.filter (· ≠ default.name) = some lan.name ∧
      n.toNetworkSection =
        { mode := .gateway, lanInterface := trim lan.name, lanSubnet := lan.subnet,
          lanAddress := lan.address, wanInterface := some (trim default.name),
          dhcp := some { rangeStart := some start, rangeEnd := some last }, wifi := wifi } := by
  rw [networkFor] at h
  cases hl : lanInterface.filter (· ≠ default.name) with
  | none =>
    simp only [hl] at h
    split at h
    · cases h
    · exact .inl ⟨rfl, sidecarFor_section h⟩
  | some name =>
    simp only [hl] at h
    split at h
    next => cases h
    next lan hfind =>
      have hname : lan.name = name := by simpa using List.find?_some hfind
      cases hg : gatewayFor default lan wifi none with
      | error e => simp [hg, bind, Except.bind] at h
      | ok m =>
        simp only [hg, bind, Except.bind] at h
        exact .inr ⟨lan, _, _, by rw [hname], gatewayFor_section h⟩

end VibeDPN
