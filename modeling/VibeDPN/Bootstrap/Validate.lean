import VibeDPN.Bootstrap.Render
import VibeDPN.Lib.Yaml

namespace VibeDPN

open Text Inet

-- the values the validators take; numbers and booleans written in quotes are left out
namespace Yaml

def asText : Yaml → Option String
  | .str s => some s
  | _ => none

def asBool : Yaml → Option Bool
  | .bool b => some b
  | _ => none

def asNumber : Yaml → Option Nat
  | .int n => some n
  | _ => none

def asList {α : Type} (item : Yaml → Option α) : Yaml → Option (List α)
  | .seq items => items.mapM item
  | _ => none

def asMap : Yaml → Option (List (String × Yaml))
  | .map entries => some entries
  | _ => none

def asNullable {α : Type} (value : Yaml → Option α) : Yaml → Option (Option α)
  | .null => some none
  | y => (value y).map some

def asEnum {α : Type} (all : List α) (spelled : α → String) (y : Yaml) : Option α :=
  (asText y).bind fun s => all.find? (spelled · = s)

def asChecked (p : String → Bool) (y : Yaml) : Option {s : String // p s = true} :=
  (asText y).bind fun s => check p (trim s)

def asPort (y : Yaml) : Option Port := (asNumber y).bind fun n => toPort n

def asAddress : Yaml → Option IPv4Address
  | .str s => parseAddress s
  | .int n => if n < 2 ^ 32 then some (BitVec.ofNat 32 n) else none
  | _ => none

def asNetwork : Yaml → Option IPv4Network
  | .str s => parseNetwork s
  | .int n => if n < 2 ^ 32 then makeNetwork (BitVec.ofNat 32 n) 32 else none
  | _ => none

def asCountry (y : Yaml) : Option Country := (asText y).bind normalizeCountry

def asRole : Yaml → Option Role := asEnum [.home, .vps, .client] Role.value

-- extra keys are errors
def section? (keys : List String) (y : Yaml) : Option (List (String × Yaml)) :=
  (asMap y).filter fun entries => entries.all (·.1 ∈ keys)

def required {α : Type} (entries : List (String × Yaml)) (key : String) (value : Yaml → Option α) :
    Option α :=
  (entries.lookup key).bind value

def defaulted {α : Type} (entries : List (String × Yaml)) (key : String) (default : α)
    (value : Yaml → Option α) : Option α :=
  match entries.lookup key with
  | some y => value y
  | none => some default

def asDhcp (y : Yaml) : Option DhcpConfig := do
  let es ← section? ["range_start", "range_end", "lease"] y
  let start ← defaulted es "range_start" none (asNullable asAddress)
  let last ← defaulted es "range_end" none (asNullable asAddress)
  let lease ← defaulted es "lease" defaultLease (asChecked isLease)
  some { rangeStart := start, rangeEnd := last, lease := lease }

def asWifi (y : Yaml) : Option WifiConfig := do
  let es ← section? ["ssid", "country", "band", "channel", "security"] y
  let ssid ← required es "ssid" (asChecked isSsid)
  let country ← required es "country" asCountry
  let band ← defaulted es "band" .band24 (asEnum [.band24, .band5] WifiBand.value)
  let channel ← defaulted es "channel" 6 asNumber
  let security ← defaulted es "security" .wpa2Wpa3 (asEnum [.wpa2Wpa3, .wpa3] WifiSecurity.value)
  if h : channel ∈ wifiChannels band then
    some { ssid := ssid, country := country, band := band, channel := channel,
           security := security, channel_mem := h }
  else none

def asInterface (y : Yaml) : Option String := (asText y).map trim

def asNetworkSection (y : Yaml) : Option NetworkSection := do
  let es ← section? ["mode", "lan_interface", "lan_subnet", "lan_address", "wan_interface", "dhcp",
    "wifi"] y
  let mode ← defaulted es "mode" .sidecar (asEnum [.sidecar, .gateway] NetworkMode.value)
  let lan ← required es "lan_interface" asInterface
  let subnet ← required es "lan_subnet" asNetwork
  let address ← required es "lan_address" asAddress
  let wan ← defaulted es "wan_interface" none (asNullable asInterface)
  let dhcp ← defaulted es "dhcp" none (asNullable asDhcp)
  let wifi ← defaulted es "wifi" none (asNullable asWifi)
  some { mode := mode, lanInterface := lan, lanSubnet := subnet, lanAddress := address,
         wanInterface := wan, dhcp := dhcp, wifi := wifi }

def asNetworkConfig (y : Yaml) : Option NetworkConfig :=
  (asNetworkSection y).bind NetworkSection.validate

def channelKeys : List String := ["via", "country", "uplink"]

def channelNode (es : List (String × Yaml)) : Option ChannelNode := do
  let via ← required es "via" (asEnum [.vps, .dpn, .wg, .tor, .direct] DomainVia.value)
  let country ← defaulted es "country" none (asNullable asText)
  let uplink ← defaulted es "uplink" none (asNullable asText)
  some { via := via, country := country, uplink := uplink }

def asDomainNode (y : Yaml) : Option DomainNode := do
  let es ← section? (channelKeys ++ ["domain", "learn", "also"]) y
  let channel ← channelNode es
  let domain ← required es "domain" asText
  let learn ← defaulted es "learn" true asBool
  let also ← defaulted es "also" [] (asList asText)
  some { toChannelNode := channel, domain := domain, learn := learn, also := also }

def asListNode (y : Yaml) : Option ListNode := do
  let es ← section? (channelKeys ++ ["url"]) y
  let channel ← channelNode es
  let url ← required es "url" asText
  some { toChannelNode := channel, url := url }

def asNetworkNode (y : Yaml) : Option NetworkNode := do
  let es ← section? (channelKeys ++ ["network"]) y
  let channel ← channelNode es
  let network ← required es "network" asText
  some { toChannelNode := channel, network := network }

def asRouting (y : Yaml) : Option RoutingNode := do
  let es ← section? ["mode", "default_upstream", "failopen", "domains", "smart_domains", "lists",
    "networks"] y
  let mode ← defaulted es "mode" .off (asEnum [.off, .full, .smart] RoutingMode.value)
  let key ← required es "default_upstream" asText
  let failopen ← defaulted es "failopen" false asBool
  let domains ← defaulted es "domains" none (fun y => (asList asDomainNode y).map some)
  let old ← defaulted es "smart_domains" none
    (fun y => (asNullable (asList asText) y).map fun l => some (l.getD []))
  let lists ← defaulted es "lists" none (fun y => (asList asListNode y).map some)
  let networks ← defaulted es "networks" none (fun y => (asList asNetworkNode y).map some)
  some { mode := mode, defaultUpstream := key, failopen := failopen, domains := domains,
         smartDomains := old, lists := lists, networks := networks }

def asIp : Yaml → Option IpNode
  | .str s => some (.text s)
  | .int n => some (.number n)
  | _ => none

def asDevice (y : Yaml) : Option DeviceNode := do
  let es ← section? ["name", "mac", "ip", "policy"] y
  let name ← required es "name" asText
  let mac ← defaulted es "mac" none (asNullable asText)
  let ip ← defaulted es "ip" none (asNullable asIp)
  let policy ← required es "policy" (asEnum DevicePolicy.all DevicePolicy.value)
  some { name := name, mac := mac, ip := ip, policy := policy }

def asVps (y : Yaml) : Option VpsUplink := do
  let es ← section? ["enabled", "lan_access"] y
  let enabled ← defaulted es "enabled" false asBool
  let lanAccess ← defaulted es "lan_access" false asBool
  some { enabled := enabled, lanAccess := lanAccess }

def asDpn (y : Yaml) : Option DpnUplink := do
  let es ← section? ["enabled", "country"] y
  let enabled ← defaulted es "enabled" false asBool
  let country ← defaulted es "country" none (asNullable asCountry)
  some { enabled := enabled, country := country }

-- a box with bridges of its own is outside the model
def asTor (y : Yaml) : Option TorUplink := do
  let es ← section? ["enabled"] y
  let enabled ← defaulted es "enabled" false asBool
  some { enabled := enabled }

def asWg (y : Yaml) : Option WgUplink := do
  let es ← section? ["enabled"] y
  let enabled ← defaulted es "enabled" true asBool
  some { enabled := enabled }

def asWgs (y : Yaml) : Option (Dict String WgUplink) := do
  let es ← asMap y
  let exits ← es.mapM fun e => (asWg e.2).map fun uplink => (e.1, uplink)
  some (Dict.empty.update exits)

def asUpstreams (y : Yaml) : Option UpstreamsNode := do
  let es ← section? ["vps", "dpn", "tor", "wg"] y
  let vps ← defaulted es "vps" {} asVps
  let dpn ← defaulted es "dpn" {} asDpn
  let tor ← defaulted es "tor" {} asTor
  let wg ← defaulted es "wg" none (fun y => (asWgs y).map some)
  some { vps := vps, dpn := dpn, tor := tor, wg := wg }

def asProvider (y : Yaml) : Option ProviderConfig := do
  let es ← section? ["enabled", "udp_ports", "traversal"] y
  let enabled ← defaulted es "enabled" false asBool
  let ports ← defaulted es "udp_ports" defaultUdpPorts (asChecked isPortRange)
  let traversal ← defaulted es "traversal" defaultTraversal
    (asList (asEnum [.manual, .upnp, .holepunching] Traversal.value))
  if h : traversal ≠ [] ∧ traversal.Nodup then
    some { enabled := enabled, udpPorts := ports, traversal := traversal, checked := h }
  else none

def asSubnet (y : Yaml) : Option WgSubnet :=
  (asNetwork y).bind fun n => if h : minWgSubnetAddresses ≤ n.numAddresses then some ⟨n, h⟩ else none

def asWgServer (y : Yaml) : Option WgServerConfig := do
  let es ← section? ["endpoint", "subnet", "listen_port"] y
  let endpoint ← required es "endpoint" (asChecked isEndpoint)
  let subnet ← defaulted es "subnet" defaultWgSubnet asSubnet
  let port ← defaulted es "listen_port" defaultWgPort asPort
  some { endpoint := endpoint, subnet := subnet, listenPort := port }

def asDns (y : Yaml) : Option DnsConfig := do
  let es ← section? ["enabled", "upstreams", "web_port"] y
  let enabled ← defaulted es "enabled" true asBool
  let upstreams ← defaulted es "upstreams" [cloudflare] (asList (asChecked isDohUrl))
  let port ← defaulted es "web_port" adguardPort asPort
  if h : upstreams ≠ [] then
    some { enabled := enabled, upstreams := upstreams, webPort := port, upstreams_ne := h }
  else none

def asUi (y : Yaml) : Option UiConfig := do
  let es ← section? ["enabled", "port", "variant", "host_name", "language"] y
  let enabled ← defaulted es "enabled" true asBool
  let port ← defaulted es "port" defaultUiPort asPort
  let variant ← defaulted es "variant" .full (asEnum [.full, .lite] UiVariant.value)
  let hostName ← defaulted es "host_name" defaultUiHostName
    (fun y => (asText y).bind validateDomain)
  let language ← defaulted es "language" defaultUiLanguage
    (fun y => (asText y).bind fun s => check isLanguage (lower (strip s)))
  some { enabled := enabled, port := port, variant := variant, hostName := hostName,
         language := language }

def asApi (y : Yaml) : Option ApiConfig := do
  let es ← section? ["port"] y
  let port ← defaulted es "port" defaultApiPort asPort
  some { port := port }

def asFirewall (y : Yaml) : Option FirewallConfig := do
  let es ← section? ["enabled", "ssh_ports", "allow_tcp", "allow_udp"] y
  let enabled ← defaulted es "enabled" true asBool
  let ssh ← defaulted es "ssh_ports" [defaultSshPort] (asList asPort)
  let tcp ← defaulted es "allow_tcp" [] (asList asPort)
  let udp ← defaulted es "allow_udp" [] (asList asPort)
  if h : (ssh ≠ [] ∧ ssh.Nodup) ∧ tcp.Nodup ∧ udp.Nodup then
    some { enabled := enabled, sshPorts := ssh, allowTcp := tcp, allowUdp := udp,
           ssh_checked := h.1, tcp_unique := h.2.1, udp_unique := h.2.2 }
  else none

def lanSectionKeys : List String := ["network", "routing", "devices", "upstreams", "dns", "ui"]

def vpsSectionKeys : List String := ["firewall"]

def rejectLanSectionsOnVps (role : Role) (es : List (String × Yaml)) : Bool :=
  (if role = .vps then lanSectionKeys else vpsSectionKeys).any fun key => (es.lookup key).isSome

def configKeys : List String :=
  ["version", "role", "network", "routing", "devices", "upstreams", "provider", "wg_server", "dns",
    "ui", "api", "firewall"]

def asVersion (y : Yaml) : Option Unit := if asNumber y = some 1 then some () else none

def present {α : Type} (es : List (String × Yaml)) (key : String) (value : Yaml → Option α) :
    Option (Option α) :=
  defaulted es key none fun y => (value y).map some

def asDocument (y : Yaml) : Option Document := do
  let es ← section? configKeys y
  let _ ← required es "version" asVersion
  let role ← required es "role" asRole
  let network ← defaulted es "network" none (asNullable asNetworkConfig)
  let routing ← defaulted es "routing" none (asNullable asRouting)
  let devices ← present es "devices" (asList asDevice)
  let upstreams ← present es "upstreams" asUpstreams
  let provider ← present es "provider" asProvider
  let wgServer ← defaulted es "wg_server" none (asNullable asWgServer)
  let dns ← present es "dns" asDns
  let ui ← present es "ui" asUi
  let api ← present es "api" asApi
  let firewall ← present es "firewall" asFirewall
  if rejectLanSectionsOnVps role es then none
  else
    some { role := role, network := network, routing := routing, devices := devices,
           upstreams := upstreams, provider := provider, wgServer := wgServer, dns := dns, ui := ui,
           api := api, firewall := firewall }

def modelValidate (y : Yaml) : Option Config := (asDocument y).bind Document.validate

end Yaml

end VibeDPN
