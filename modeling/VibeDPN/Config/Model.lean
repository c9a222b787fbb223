import VibeDPN.Lib.Dict
import VibeDPN.Lib.Inet
import VibeDPN.Config.Names
import VibeDPN.Config.Sections

namespace VibeDPN

open Text Inet

inductive Role where
  | home | vps | client
deriving DecidableEq, Repr

inductive RoutingMode where
  | off | full | smart
deriving DecidableEq, Repr

inductive Upstream where
  | vps | dpn | tor
deriving DecidableEq, Repr

inductive DevicePolicy where
  | vps | dpn | tor | bypass | block
deriving DecidableEq, Repr

inductive DomainVia where
  | vps | dpn | wg | tor | direct
deriving DecidableEq, Repr

def Role.value : Role → String
  | .home => "home"
  | .vps => "vps"
  | .client => "client"

def Upstream.value : Upstream → String
  | .vps => "vps"
  | .dpn => "dpn"
  | .tor => "tor"

def Upstream.ofValue (s : String) : Option Upstream :=
  [Upstream.vps, .dpn, .tor].find? (fun u => u.value = s)

def DevicePolicy.all : List DevicePolicy := [.vps, .dpn, .tor, .bypass, .block]

def DevicePolicy.value : DevicePolicy → String
  | .vps => "vps"
  | .dpn => "dpn"
  | .tor => "tor"
  | .bypass => "bypass"
  | .block => "block"

def DomainVia.value : DomainVia → String
  | .vps => "vps"
  | .dpn => "dpn"
  | .wg => "wg"
  | .tor => "tor"
  | .direct => "direct"

def wgKeyPrefix : String := "wg-"

def isUplinkKey (s : String) : Bool :=
  if startsWith s wgKeyPrefix then isWgName (removePrefix s wgKeyPrefix)
  else (Upstream.ofValue s).isSome

abbrev UplinkKey := {s : String // isUplinkKey s = true}

def dpnKey : UplinkKey := ⟨"dpn", by decide⟩

def torKey : UplinkKey := ⟨"tor", by decide⟩

def isDohUrl (s : String) : Bool :=
  let rest := s.toList.drop 8
  startsWith s "https://" && rest.all (fun c => !isSpace c) && rest.head? ≠ some '/' && '/' ∈ rest

abbrev DohUrl := {s : String // isDohUrl s = true}

def checkCountryChannel (via : DomainVia) (country : Option Country) (uplink : Option WgName) :
    Bool :=
  !(country.isSome && via ≠ .dpn) && !(via = .wg && uplink.isNone) && !(uplink.isSome && via ≠ .wg)

structure DomainChannel where
  via : DomainVia
  country : Option Country := none
  uplink : Option WgName := none
  checked : checkCountryChannel via country uplink = true := by decide
deriving DecidableEq

structure DomainRule extends DomainChannel where
  domain : DomainName
  learn : Bool := true
  also : List DomainName := []
deriving DecidableEq

def DomainRule.subject (r : DomainRule) : String := r.domain.val

def DomainRule.names (r : DomainRule) : List DomainName := r.domain :: r.also

structure DomainList extends DomainChannel where
  url : ListUrl
deriving DecidableEq

def DomainList.subject (l : DomainList) : String := l.url.val

structure NetworkRule extends DomainChannel where
  network : IPv4Network
deriving DecidableEq

def NetworkRule.subject (r : NetworkRule) : String := r.network.str

structure RoutingConfig where
  mode : RoutingMode := .off
  defaultUpstream : UplinkKey
  failopen : Bool := false
  domains : List DomainRule := []
  lists : List DomainList := []
  networks : List NetworkRule := []
deriving DecidableEq

def RoutingConfig.subjects (r : RoutingConfig) : List (String × DomainChannel) :=
  r.domains.map (fun x => (x.subject, x.toDomainChannel)) ++
    r.lists.map (fun x => (x.subject, x.toDomainChannel)) ++
    r.networks.map (fun x => (x.subject, x.toDomainChannel))

def RoutingConfig.channels (r : RoutingConfig) : List DomainChannel := r.subjects.map Prod.snd

structure DeviceConfig where
  name : DeviceName
  mac : Option Mac := none
  ip : Option IPv4Address := none
  policy : DevicePolicy
deriving DecidableEq

structure VpsUplink where
  enabled : Bool := false
  lanAccess : Bool := false
deriving DecidableEq

structure DpnUplink where
  enabled : Bool := false
  country : Option Country := none
deriving DecidableEq

structure WgUplink where
  enabled : Bool := true
deriving DecidableEq

structure TorUplink where
  enabled : Bool := false
deriving DecidableEq

structure UpstreamsConfig where
  vps : VpsUplink := {}
  dpn : DpnUplink := {}
  tor : TorUplink := {}
  wg : Dict WgName WgUplink := Dict.empty
deriving DecidableEq

def UpstreamsConfig.isEnabled (u : UpstreamsConfig) : Upstream → Bool
  | .vps => u.vps.enabled
  | .dpn => u.dpn.enabled
  | .tor => u.tor.enabled

-- none is the ValueError of Upstream(key)
def UpstreamsConfig.isKeyEnabled (u : UpstreamsConfig) (key : String) : Option Bool :=
  if startsWith key wgKeyPrefix then
    match (check isWgName (removePrefix key wgKeyPrefix)).bind u.wg.get? with
    | some uplink => some uplink.enabled
    | none => some false
  else if startsWith key Upstream.dpn.value then some (u.isEnabled .dpn)
  else (Upstream.ofValue key).map u.isEnabled

def cloudflare : DohUrl := ⟨"https://dns.cloudflare.com/dns-query", by decide⟩

theorem cloudflare_ne : [cloudflare] ≠ [] := List.cons_ne_nil _ _

def adguardPort : Port := ⟨3000, by decide⟩

structure DnsConfig where
  enabled : Bool := true
  upstreams : List DohUrl := [cloudflare]
  webPort : Port := adguardPort
  upstreams_ne : upstreams ≠ [] := by exact cloudflare_ne
deriving DecidableEq

structure Fields where
  role : Role
  network : Option NetworkConfig := none
  routing : Option RoutingConfig := none
  devices : List DeviceConfig := []
  upstreams : UpstreamsConfig := {}
  provider : ProviderConfig := {}
  wgServer : Option WgServerConfig := none
  dns : DnsConfig := {}
  ui : UiConfig := {}
  api : ApiConfig := {}
  firewall : FirewallConfig := {}
deriving DecidableEq

namespace Fields

def channels (c : Fields) : List DomainChannel :=
  match c.routing with
  | some routing => routing.channels
  | none => []

def duplicates {α : Type} [DecidableEq α] (l : List α) : List α :=
  (l.filter (fun x => 1 < l.count x)).dedup

def commaList (l : List String) : String :=
  String.ofList ([',', ' '].intercalate ((l.insertionSort (· ≤ ·)).map String.toList))

def routingErrors (c : Fields) : List String :=
  match c.routing with
  | none => []
  | some routing =>
    let names := duplicates (routing.domains.flatMap DomainRule.names)
    let urls := duplicates (routing.lists.map DomainList.url)
    (if names ≠ [] then
      ["routing.domains names a domain twice: " ++ commaList (names.map Subtype.val)]
    else []) ++
    (if urls ≠ [] then
      ["routing.lists names a URL twice: " ++ commaList (urls.map Subtype.val)]
    else []) ++
    ((duplicates (routing.networks.map NetworkRule.network)).take 1).map
      (fun n => "routing.networks: " ++ n.str ++ " is listed twice")

def identityErrors (c : Fields) : List String :=
  (c.devices.filter (fun d => d.mac.isNone && d.ip.isNone)).map
    (fun d => "device " ++ quoted d.name.val ++ " needs a mac or an ip")

def viaUplink : DomainVia → Option Upstream
  | .vps => some .vps
  | .dpn => some .dpn
  | .tor => some .tor
  | .wg => none
  | .direct => none

def policyUplink : DevicePolicy → Option Upstream
  | .vps => some .vps
  | .dpn => some .dpn
  | .tor => some .tor
  | .bypass => none
  | .block => none

def maxRuleCountries : Nat := 8

def ruleCountries? (c : DomainChannel) : Option Country :=
  if c.via = .dpn then c.country else none

def viaErrors (u : UpstreamsConfig) (item : String × DomainChannel) : List String :=
  match viaUplink item.2.via with
  | some up =>
    if u.isEnabled up then []
    else ["routing: " ++ item.1 ++ " goes via " ++ item.2.via.value ++
      " but that uplink is not enabled"]
  | none => []

def wgErrors (u : UpstreamsConfig) (item : String × DomainChannel) : List String :=
  match item.2.via, item.2.uplink with
  | .wg, some name =>
    if u.isKeyEnabled (wgKeyPrefix ++ name.val) = some true then []
    else ["routing: " ++ item.1 ++ " goes via wg " ++ name.val ++
      " but upstreams.wg has no enabled exit of that name"]
  | _, _ => []

def domainErrors (c : Fields) : List String :=
  match c.routing with
  | none => []
  | some routing =>
    let countries := (routing.channels.filterMap ruleCountries?).dedup
    routing.subjects.flatMap (viaErrors c.upstreams) ++
      routing.subjects.flatMap (wgErrors c.upstreams) ++
      (if countries.length > maxRuleCountries then
        ["routing: " ++ toString countries.length ++ " exit countries, at most " ++
          toString maxRuleCountries ++ " (each one is a consumer of its own)"]
      else [])

def deviceErrors (u : UpstreamsConfig) :
    List DeviceConfig → List Mac → List IPv4Address → List String
  | [], _, _ => []
  | device :: rest, seenMacs, seenIps =>
    (match policyUplink device.policy with
      | some up =>
        if u.isEnabled up then []
        else ["devices: " ++ quoted device.name.val ++ " uses policy '" ++ device.policy.value ++
          "' but that uplink is not enabled"]
      | none => []) ++
    (match device.mac with
      | some mac => if mac ∈ seenMacs then ["devices: duplicate mac " ++ mac.val] else []
      | none => []) ++
    (match device.ip with
      | some ip => if ip ∈ seenIps then ["devices: duplicate ip " ++ ip.str] else []
      | none => []) ++
    deviceErrors u rest (device.mac.toList ++ seenMacs) (device.ip.toList ++ seenIps)

def lanBoxErrors (c : Fields) : List String :=
  (if c.network.isNone then ["network: required for role '" ++ c.role.value ++ "'"] else []) ++
  (match c.routing with
    | none => ["routing: required for role '" ++ c.role.value ++ "'"]
    | some routing =>
      if routing.mode ≠ .off ∧ c.upstreams.isKeyEnabled routing.defaultUpstream.val ≠ some true then
        ["routing.default_upstream: '" ++ routing.defaultUpstream.val ++
          "' is not an enabled uplink"]
      else []) ++
  (if c.wgServer.isSome then ["wg_server: only role 'vps' runs the WireGuard server"] else []) ++
  deviceErrors c.upstreams c.devices [] [] ++
  c.domainErrors

def vpsErrors (c : Fields) : List String :=
  (if c.wgServer.isSome then [] else ["wg_server: required for role 'vps'"]) ++
  (if c.provider.enabled then [] else ["provider.enabled: must be true for role 'vps'"])

def roleErrors (c : Fields) : List String :=
  if c.role = .vps then c.vpsErrors
  else
    c.lanBoxErrors ++
    (if c.role = .home ∧ c.upstreams.vps.enabled then
      ["upstreams.vps: role 'home' has no VPS uplink; a box paired with a VPS is role 'client'"]
    else []) ++
    (if c.role = .client then
      (if c.upstreams.vps.enabled then []
        else ["upstreams.vps.enabled: must be true for role 'client'"]) ++
      (if c.provider.enabled then
        ["provider.enabled: role 'client' runs no node; the node is on the VPS"]
      else [])
    else [])

-- a section a document of this role does not hold has its default value in the model
def sectionErrors (c : Fields) : List String :=
  if c.role = .vps then
    (if c.network = none then [] else ["network: not part of role 'vps'"]) ++
    (if c.routing = none then [] else ["routing: not part of role 'vps'"]) ++
    (if c.devices = [] then [] else ["devices: not part of role 'vps'"]) ++
    (if c.upstreams = {} then [] else ["upstreams: not part of role 'vps'"]) ++
    (if c.dns = {} then [] else ["dns: not part of role 'vps'"]) ++
    (if c.ui = {} then [] else ["ui: not part of role 'vps'"])
  else if c.firewall = {} then [] else ["firewall: only role 'vps' has a host firewall"]

def errors (c : Fields) : List String :=
  c.sectionErrors ++ c.routingErrors ++ c.identityErrors ++ c.roleErrors

end Fields

structure Config extends Fields where
  valid : toFields.errors = []
deriving DecidableEq

namespace Config

theorem duplicates_eq_nil {α : Type} [DecidableEq α] {l : List α} :
    Fields.duplicates l = [] ↔ l.Nodup := by
  rw [List.nodup_iff_count_le_one, Fields.duplicates, List.dedup_eq_nil, List.filter_eq_nil_iff]
  constructor
  · intro h a
    by_cases ha : a ∈ l
    · simpa using h a ha
    · simp [List.count_eq_zero_of_not_mem ha]
  · intro h a _
    simpa using h a

theorem sections_valid (c : Config) : c.sectionErrors = [] := by
  have h := c.valid
  simp only [Fields.errors, List.append_eq_nil_iff] at h
  exact h.1.1.1

theorem routing_valid (c : Config) : c.routingErrors = [] := by
  have h := c.valid
  simp only [Fields.errors, List.append_eq_nil_iff] at h
  exact h.1.1.2

theorem identity_valid (c : Config) : c.identityErrors = [] := by
  have h := c.valid
  simp only [Fields.errors, List.append_eq_nil_iff] at h
  exact h.1.2

theorem role_valid (c : Config) : c.roleErrors = [] := by
  have h := c.valid
  simp only [Fields.errors, List.append_eq_nil_iff] at h
  exact h.2

theorem names_nodup {c : Config} {routing : RoutingConfig} (hr : c.routing = some routing) :
    (routing.domains.flatMap DomainRule.names).Nodup := by
  have h := c.routing_valid
  simp only [Fields.routingErrors, hr, List.append_eq_nil_iff] at h
  rw [← duplicates_eq_nil]
  by_contra hn
  simp [hn] at h

theorem vps_sections {c : Config} (hv : c.role = .vps) :
    c.network = none ∧ c.routing = none ∧ c.devices = [] ∧ c.upstreams = {} := by
  have h := c.sections_valid
  simp only [Fields.sectionErrors, hv, if_true, List.append_eq_nil_iff, ite_eq_left_iff,
    List.cons_ne_nil, imp_false, not_not] at h
  exact ⟨h.1.1.1.1.1, h.1.1.1.1.2, h.1.1.1.2, h.1.1.2⟩

theorem lanBox_valid {c : Config} (hv : c.role ≠ .vps) : c.lanBoxErrors = [] := by
  have h := c.role_valid
  simp only [Fields.roleErrors, hv, if_false, List.append_eq_nil_iff] at h
  exact h.1.1

theorem role_ne_vps {c : Config} {routing : RoutingConfig} (hr : c.routing = some routing) :
    c.role ≠ .vps := by
  intro hv
  simp [(vps_sections hv).2.1] at hr

theorem lan_sections {c : Config} (hv : c.role ≠ .vps) :
    c.network.isSome ∧ c.routing.isSome := by
  have h := lanBox_valid hv
  simp only [Fields.lanBoxErrors, List.append_eq_nil_iff] at h
  constructor
  · by_contra hn
    simp [Option.not_isSome_iff_eq_none.mp hn] at h
  · by_contra hn
    simp [Option.not_isSome_iff_eq_none.mp hn] at h

theorem default_enabled {c : Config} {routing : RoutingConfig} (hr : c.routing = some routing)
    (hm : routing.mode ≠ .off) :
    c.upstreams.isKeyEnabled routing.defaultUpstream.val = some true := by
  have h := lanBox_valid (role_ne_vps hr)
  simp only [Fields.lanBoxErrors, hr, List.append_eq_nil_iff] at h
  by_contra hn
  simp [hm, hn] at h

theorem domain_valid (c : Config) : c.domainErrors = [] := by
  cases hr : c.routing with
  | none => simp [Fields.domainErrors, hr]
  | some routing =>
    have h := lanBox_valid (role_ne_vps hr)
    simp only [Fields.lanBoxErrors, List.append_eq_nil_iff] at h
    exact h.2

theorem via_enabled {c : Config} {item : DomainChannel} (hi : item ∈ c.channels) {up : Upstream}
    (hu : Fields.viaUplink item.via = some up) : c.upstreams.isEnabled up = true := by
  cases hr : c.routing with
  | none => simp [Fields.channels, hr] at hi
  | some routing =>
    simp only [Fields.channels, hr, RoutingConfig.channels, List.mem_map] at hi
    obtain ⟨x, hx, rfl⟩ := hi
    have h := c.domain_valid
    simp only [Fields.domainErrors, hr, List.append_eq_nil_iff, List.flatMap_eq_nil_iff] at h
    have hv := h.1.1 x hx
    by_contra hn
    simp [Fields.viaErrors, hu, hn] at hv

theorem exit_enabled {c : Config} {item : DomainChannel} (hi : item ∈ c.channels)
    (hw : item.via = .wg) {name : WgName} (hn : item.uplink = some name) :
    c.upstreams.isKeyEnabled (wgKeyPrefix ++ name.val) = some true := by
  cases hr : c.routing with
  | none => simp [Fields.channels, hr] at hi
  | some routing =>
    simp only [Fields.channels, hr, RoutingConfig.channels, List.mem_map] at hi
    obtain ⟨x, hx, rfl⟩ := hi
    have h := c.domain_valid
    simp only [Fields.domainErrors, hr, List.append_eq_nil_iff, List.flatMap_eq_nil_iff] at h
    have hv := h.1.2 x hx
    by_contra hne
    simp [Fields.wgErrors, hw, hn, hne] at hv

theorem countries_le (c : Config) :
    ((c.channels.filterMap Fields.ruleCountries?).dedup).length ≤ Fields.maxRuleCountries := by
  cases hr : c.routing with
  | none => simp [Fields.channels, hr]
  | some routing =>
    have h := c.domain_valid
    simp only [Fields.domainErrors, hr, List.append_eq_nil_iff] at h
    simp only [Fields.channels, hr]
    by_contra hn
    simp [Nat.not_le.mp hn] at h

theorem deviceErrors_nil {u : UpstreamsConfig} {devices : List DeviceConfig} {macs : List Mac}
    {ips : List IPv4Address} (h : Fields.deviceErrors u devices macs ips = [])
    (hm : macs.Nodup) (hi : ips.Nodup) :
    (devices.filterMap DeviceConfig.mac ++ macs).Nodup ∧
      (devices.filterMap DeviceConfig.ip ++ ips).Nodup ∧
      ∀ d ∈ devices, ∀ up, Fields.policyUplink d.policy = some up → u.isEnabled up = true := by
  induction devices generalizing macs ips with
  | nil => simpa using ⟨hm, hi⟩
  | cons d devices ih =>
    simp only [Fields.deviceErrors, List.append_eq_nil_iff] at h
    obtain ⟨⟨⟨hp, hmac⟩, hip⟩, hrest⟩ := h
    have hm' : (d.mac.toList ++ macs).Nodup := by
      cases hd : d.mac with
      | none => simpa using hm
      | some mac =>
        have hn : mac ∉ macs := fun hin => by simp [hd, hin] at hmac
        simpa using ⟨hn, hm⟩
    have hi' : (d.ip.toList ++ ips).Nodup := by
      cases hd : d.ip with
      | none => simpa using hi
      | some ip =>
        have hn : ip ∉ ips := fun hin => by simp [hd, hin] at hip
        simpa using ⟨hn, hi⟩
    obtain ⟨h1, h2, h3⟩ := ih hrest hm' hi'
    refine ⟨?_, ?_, ?_⟩
    · refine (List.Perm.nodup_iff ?_).mp h1
      cases hd : d.mac with
      | none => simp [hd]
      | some mac => simp [hd]
    · refine (List.Perm.nodup_iff ?_).mp h2
      cases hd : d.ip with
      | none => simp [hd]
      | some ip => simp [hd]
    · intro e he up hup
      rcases List.mem_cons.mp he with rfl | he
      · by_contra hn
        simp [hup, hn] at hp
      · exact h3 e he up hup

theorem device_valid (c : Config) : Fields.deviceErrors c.upstreams c.devices [] [] = [] := by
  by_cases hv : c.role = .vps
  · simp [(vps_sections hv).2.2.1, Fields.deviceErrors]
  · have h := lanBox_valid hv
    simp only [Fields.lanBoxErrors, List.append_eq_nil_iff] at h
    exact h.1.2

theorem macs_nodup (c : Config) : (c.devices.filterMap DeviceConfig.mac).Nodup := by
  simpa using (deviceErrors_nil c.device_valid List.nodup_nil List.nodup_nil).1

theorem ips_nodup (c : Config) : (c.devices.filterMap DeviceConfig.ip).Nodup := by
  simpa using (deviceErrors_nil c.device_valid List.nodup_nil List.nodup_nil).2.1

theorem policy_enabled {c : Config} {d : DeviceConfig} (hd : d ∈ c.devices) {up : Upstream}
    (hu : Fields.policyUplink d.policy = some up) : c.upstreams.isEnabled up = true :=
  (deviceErrors_nil c.device_valid List.nodup_nil List.nodup_nil).2.2 d hd up hu

theorem device_identity {c : Config} {d : DeviceConfig} (hd : d ∈ c.devices) (hm : d.mac = none) :
    d.ip.isSome := by
  have h := c.identity_valid
  simp only [Fields.identityErrors, List.map_eq_nil_iff, List.filter_eq_nil_iff] at h
  simpa [hm, Option.isSome_iff_ne_none] using h d hd

end Config

def sampleNetwork : NetworkConfig :=
  { lanInterface := "eth0"
    lanSubnet := ⟨0xC0A80100#32, 24, slash24_le, by decide⟩
    lanAddress := 0xC0A80102#32
    valid := by decide }

def siteName : DomainName := ⟨"site.example", by decide⟩

end VibeDPN
