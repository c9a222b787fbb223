import VibeDPN.Config.Model

namespace VibeDPN

open Text Inet

def DomainVia.ofValue (s : String) : Option DomainVia :=
  [DomainVia.vps, .dpn, .wg, .tor, .direct].find? (fun via => via.value = s)

-- the scalars an editor compares are held as they are spelled, the others as what they validate to
structure ChannelNode where
  via : DomainVia
  country : Option String := none
  uplink : Option String := none
deriving DecidableEq

structure DomainNode extends ChannelNode where
  domain : String
  learn : Bool := true
  also : List String := []
deriving DecidableEq

structure ListNode extends ChannelNode where
  url : String
deriving DecidableEq

structure NetworkNode extends ChannelNode where
  network : String
deriving DecidableEq

inductive IpNode where
  | text (s : String)
  | number (n : Int)
deriving DecidableEq

structure DeviceNode where
  name : String
  mac : Option String := none
  ip : Option IpNode := none
  policy : DevicePolicy
deriving DecidableEq

-- smartDomains: the old form of domains, plain suffixes through default_upstream
structure RoutingNode where
  mode : RoutingMode := .off
  defaultUpstream : String
  failopen : Bool := false
  domains : Option (List DomainNode) := none
  smartDomains : Option (List String) := none
  lists : Option (List ListNode) := none
  networks : Option (List NetworkNode) := none
deriving DecidableEq

structure UpstreamsNode where
  vps : VpsUplink := {}
  dpn : DpnUplink := {}
  tor : TorUplink := {}
  wg : Option (Dict String WgUplink) := none
deriving DecidableEq

structure Document where
  role : Role
  network : Option NetworkConfig := none
  routing : Option RoutingNode := none
  devices : Option (List DeviceNode) := none
  upstreams : Option UpstreamsNode := none
  provider : Option ProviderConfig := none
  wgServer : Option WgServerConfig := none
  dns : Option DnsConfig := none
  ui : Option UiConfig := none
  api : Option ApiConfig := none
  firewall : Option FirewallConfig := none
deriving DecidableEq

def optional {α β : Type} (f : α → Option β) : Option α → Option (Option β)
  | none => some none
  | some a => (f a).map some

def validateDomain (s : String) : Option DomainName := normalizeDomain (trim s)

def validateUrl (s : String) : Option ListUrl := check isListUrl (trim s)

def validateNetwork (s : String) : Option IPv4Network := parseNetwork (strip s)

def validateMac (s : String) : Option Mac := normalizeMac (trim s)

def validateName (s : String) : Option DeviceName := check isDeviceName (trim s)

def validateWgName (s : String) : Option WgName := check isWgName (trim s)

def ChannelNode.validate (n : ChannelNode) : Option DomainChannel :=
  (optional normalizeCountry n.country).bind fun country =>
    (optional validateWgName n.uplink).bind fun uplink =>
      if h : checkCountryChannel n.via country uplink = true then some ⟨n.via, country, uplink, h⟩
      else none

def DomainNode.validate (n : DomainNode) : Option DomainRule :=
  n.toChannelNode.validate.bind fun channel =>
    (validateDomain n.domain).bind fun domain =>
      (n.also.mapM validateDomain).map fun also =>
        { toDomainChannel := channel, domain := domain, learn := n.learn, also := also }

def ListNode.validate (n : ListNode) : Option DomainList :=
  n.toChannelNode.validate.bind fun channel =>
    (validateUrl n.url).map fun url => { toDomainChannel := channel, url := url }

def NetworkNode.validate (n : NetworkNode) : Option NetworkRule :=
  n.toChannelNode.validate.bind fun channel =>
    (validateNetwork n.network).map fun network => { toDomainChannel := channel, network := network }

-- a number is taken as the value of the address
def IpNode.address : IpNode → Option IPv4Address
  | .text s => parseAddress s
  | .number n => if 0 ≤ n ∧ n < 2 ^ 32 then some (BitVec.ofInt 32 n) else none

def IpNode.str : IpNode → String
  | .text s => s
  | .number n => toString n

def DeviceNode.validate (n : DeviceNode) : Option DeviceConfig :=
  (validateName n.name).bind fun name =>
    (optional validateMac n.mac).bind fun mac =>
      (optional IpNode.address n.ip).map fun ip =>
        { name := name, mac := mac, ip := ip, policy := n.policy }

namespace RoutingNode

def migrateSmartDomains (r : RoutingNode) : Option (List DomainNode) :=
  match r.smartDomains, r.domains with
  | none, domains => some (domains.getD [])
  | some _, some _ => none
  | some suffixes, none => suffixes.mapM fun suffix =>
      (DomainVia.ofValue r.defaultUpstream).map fun via => { domain := suffix, via := via }

def validate (r : RoutingNode) : Option RoutingConfig :=
  (r.migrateSmartDomains.bind (List.mapM DomainNode.validate)).bind fun domains =>
    ((r.lists.getD []).mapM ListNode.validate).bind fun lists =>
      ((r.networks.getD []).mapM NetworkNode.validate).bind fun networks =>
        (check isUplinkKey (trim r.defaultUpstream)).map fun key =>
          { mode := r.mode, defaultUpstream := key, failopen := r.failopen, domains := domains,
            lists := lists, networks := networks }

end RoutingNode

-- of two keys that name one exit the later one holds
def validateWg (wg : Dict String WgUplink) : Option (Dict WgName WgUplink) :=
  (wg.entries.mapM fun e => (validateWgName e.1).map fun name => (name, e.2)).map Dict.empty.update

def UpstreamsNode.validate (u : UpstreamsNode) : Option UpstreamsConfig :=
  (validateWg (u.wg.getD Dict.empty)).map fun wg =>
    { vps := u.vps, dpn := u.dpn, tor := u.tor, wg := wg }

def Fields.validate (c : Fields) : Option Config :=
  if h : c.errors = [] then some ⟨c, h⟩ else none

namespace Document

def lanSections (d : Document) : Bool :=
  d.network.isSome || d.routing.isSome || d.devices.isSome || d.upstreams.isSome || d.dns.isSome ||
    d.ui.isSome

def misplaced (d : Document) : Bool :=
  if d.role = .vps then d.lanSections else d.firewall.isSome

def fields (d : Document) : Option Fields :=
  (optional RoutingNode.validate d.routing).bind fun routing =>
    ((d.devices.getD []).mapM DeviceNode.validate).bind fun devices =>
      ((d.upstreams.getD {}).validate).map fun upstreams =>
        { role := d.role, network := d.network, routing := routing, devices := devices,
          upstreams := upstreams, provider := d.provider.getD {}, wgServer := d.wgServer,
          dns := d.dns.getD {}, ui := d.ui.getD {}, api := d.api.getD {},
          firewall := d.firewall.getD {} }

def validate (d : Document) : Option Config :=
  if d.misplaced = true then none else d.fields.bind Fields.validate

end Document

theorem Fields.validate_eq_some {c : Fields} {c' : Config} :
    c.validate = some c' ↔ c = c'.toFields := by
  rw [Fields.validate]
  constructor
  · intro h
    split at h
    · cases h
      rfl
    · cases h
  · rintro rfl
    rw [dif_pos c'.valid]

theorem Document.validate_eq_some {d : Document} {c : Config} (h : d.validate = some c) :
    d.fields = some c.toFields ∧ d.misplaced = false := by
  rw [Document.validate] at h
  split at h
  · cases h
  · rename_i hv
    rw [Option.bind_eq_some_iff] at h
    obtain ⟨f, hf, hc⟩ := h
    rw [Fields.validate_eq_some] at hc
    exact ⟨hc ▸ hf, Bool.not_eq_true _ ▸ hv⟩

end VibeDPN
