import VibeDPN.Lib.Json
import VibeDPN.Config.Profiles

namespace VibeDPN

open Text Inet

def NetworkMode.value : NetworkMode → String
  | .sidecar => "sidecar"
  | .gateway => "gateway"

def WifiBand.value : WifiBand → String
  | .band24 => "2.4"
  | .band5 => "5"

def WifiSecurity.value : WifiSecurity → String
  | .wpa2Wpa3 => "wpa2-wpa3"
  | .wpa3 => "wpa3"

namespace Json

def option {α : Type} (f : α → Json) : Option α → Json
  | none => null
  | some a => f a

theorem option_inj {α : Type} {f : α → Json} (hf : Function.Injective f) (hn : ∀ a, f a ≠ null) :
    Function.Injective (option f) := by
  intro a b h
  cases a with
  | none =>
    cases b with
    | none => rfl
    | some b => exact absurd h.symm (hn b)
  | some a =>
    cases b with
    | none => exact absurd h (hn a)
    | some b => exact congrArg some (hf h)

def address (a : IPv4Address) : Json := str a.str

def network (n : IPv4Network) : Json := str n.str

def port (p : Port) : Json := num p.val

def ports (l : List Port) : Json := arr (l.map port)

theorem address_injective : Function.Injective address := fun _ _ h =>
  str_injective (str.inj h)

theorem network_injective : Function.Injective network := fun _ _ h =>
  network_str_injective (str.inj h)

theorem port_injective : Function.Injective port := fun _ _ h => Subtype.ext (num.inj h)

theorem ports_injective : Function.Injective ports := fun _ _ h =>
  List.map_injective_iff.mpr port_injective (arr.inj h)

theorem str_ne_null (s : String) : str s ≠ null := fun h => nomatch h

end Json

open Json

def DhcpConfig.json (d : DhcpConfig) : Json :=
  .obj
    [("lease", str d.lease.val),
      ("range_end", option address d.rangeEnd),
      ("range_start", option address d.rangeStart)]

def WifiConfig.json (w : WifiConfig) : Json :=
  .obj
    [("band", str w.band.value),
      ("channel", num w.channel),
      ("country", str w.country.val),
      ("security", str w.security.value),
      ("ssid", str w.ssid.val)]

namespace NetworkConfig

def wifiJson (n : NetworkConfig) : Json := option WifiConfig.json n.wifi

-- all keys but wifi
def lanMembers (n : NetworkConfig) : List (String × Json) :=
  [("dhcp", option DhcpConfig.json n.dhcp),
    ("lan_address", address n.lanAddress),
    ("lan_interface", str n.lanInterface),
    ("lan_subnet", network n.lanSubnet),
    ("mode", str n.mode.value),
    ("wan_interface", option str n.wanInterface)]

def json (n : NetworkConfig) : Json := .obj (n.lanMembers ++ [("wifi", n.wifiJson)])

end NetworkConfig

def FirewallConfig.json (f : FirewallConfig) : Json :=
  .obj
    [("allow_tcp", ports f.allowTcp),
      ("allow_udp", ports f.allowUdp),
      ("enabled", .bool f.enabled),
      ("ssh_ports", ports f.sshPorts)]

def WgServerConfig.json (s : WgServerConfig) : Json :=
  .obj
    [("endpoint", str s.endpoint.val),
      ("listen_port", port s.listenPort),
      ("subnet", Json.network s.subnet.val)]

def DnsConfig.json (d : DnsConfig) : Json :=
  .obj
    [("enabled", .bool d.enabled),
      ("upstreams", .arr (d.upstreams.map fun url => str url.val)),
      ("web_port", port d.webPort)]

def digestCore : String := "VIBEDPN_DIGEST_CORE"
def digestHostapd : String := "VIBEDPN_DIGEST_HOSTAPD"
def digestDnsmasq : String := "VIBEDPN_DIGEST_DNSMASQ"
def digestAdguard : String := "VIBEDPN_DIGEST_ADGUARD"
def digestWgServer : String := "VIBEDPN_DIGEST_WG_SERVER"

def liteDbSharedBuffers : String := "32MB"

def liteDbMaxConnections : Nat := 20

namespace Fields

def lanJson (c : Fields) : Json := option (fun n => .obj n.lanMembers) c.network

def hostapdPart (c : Fields) : Json :=
  option (fun n => .obj [("lan_interface", str n.lanInterface), ("wifi", n.wifiJson)]) c.network

def dnsmasqPart (c : Fields) : Json := .obj [("dns", .bool c.dns.enabled), ("lan", c.lanJson)]

def adguardPart (c : Fields) : Json :=
  .obj
    [("dns", c.dns.json),
      ("lan", c.lanJson),
      ("ui", .obj [("enabled", .bool c.ui.enabled), ("host_name", str c.ui.hostName.val)])]

def wgServerPart (c : Fields) : Json := option WgServerConfig.json c.wgServer

def corePart (c : Fields) : Json :=
  .obj
    [(digestAdguard, c.adguardPart),
      (digestDnsmasq, c.dnsmasqPart),
      (digestHostapd, c.hostapdPart),
      (digestWgServer, c.wgServerPart),
      ("firewall", c.firewall.json),
      ("network", option NetworkConfig.json c.network)]

-- hash: the first digits of the SHA-256 of a text
variable (hash : String → String)

def configDigest (payload : Json) : String := hash payload.dumps

def configDigests (c : Fields) : List (String × String) :=
  [(digestHostapd, configDigest hash c.hostapdPart),
    (digestDnsmasq, configDigest hash c.dnsmasqPart),
    (digestAdguard, configDigest hash c.adguardPart),
    (digestWgServer, configDigest hash c.wgServerPart),
    (digestCore, configDigest hash c.corePart)]

def networkEnv (c : Fields) : List (String × String) :=
  match c.network with
  | none => []
  | some network =>
    [("VIBEDPN_LAN_IP", network.lanAddress.str),
      ("VIBEDPN_UI_PORT", toString c.ui.port.val),
      ("VIBEDPN_UI_HOST_NAME", c.ui.hostName.val),
      ("VIBEDPN_UI_VARIANT", c.ui.variant.value),
      ("VIBEDPN_UI_LANGUAGE", c.ui.language.val)] ++
    (if c.ui.variant = .lite then
      [("VIBEDPN_UI_DB_SHARED_BUFFERS", liteDbSharedBuffers),
        ("VIBEDPN_UI_DB_MAX_CONNECTIONS", toString liteDbMaxConnections)]
    else [])

def providerEnv (c : Fields) : List (String × String) :=
  if c.provider.enabled then
    [("VIBEDPN_MYST_UDP_FROM", toString c.provider.udpPorts.bounds.1),
      ("VIBEDPN_MYST_UDP_TO", toString c.provider.udpPorts.bounds.2),
      ("VIBEDPN_MYST_TRAVERSAL", join ',' (c.provider.traversal.map Traversal.value))]
  else []

def envVars (c : Fields) : List (String × String) :=
  [("COMPOSE_PROFILES", join ',' (c.composeProfiles.map Profile.value)),
    ("VIBEDPN_API_PORT", toString c.api.port.val)] ++
    c.networkEnv ++ c.providerEnv ++ c.configDigests hash

end Fields

theorem NetworkMode.value_injective : Function.Injective NetworkMode.value := by
  intro a b h
  cases a <;> cases b <;> first | rfl | exact absurd h (by decide)

theorem WifiBand.value_injective : Function.Injective WifiBand.value := by
  intro a b h
  cases a <;> cases b <;> first | rfl | exact absurd h (by decide)

theorem WifiSecurity.value_injective : Function.Injective WifiSecurity.value := by
  intro a b h
  cases a <;> cases b <;> first | rfl | exact absurd h (by decide)

theorem DhcpConfig.json_injective : Function.Injective DhcpConfig.json := by
  intro a b h
  have ha := option_inj address_injective (fun _ => str_ne_null _)
  cases a
  cases b
  simp only [DhcpConfig.json, obj.injEq, List.cons.injEq, Prod.mk.injEq, true_and, str.injEq,
    and_true, ha.eq_iff] at h
  obtain ⟨hl, he, hs⟩ := h
  rw [Subtype.ext hl, he, hs]

theorem WifiConfig.json_injective : Function.Injective WifiConfig.json := by
  intro a b h
  cases a
  cases b
  simp only [WifiConfig.json, obj.injEq, List.cons.injEq, Prod.mk.injEq, true_and, str.injEq,
    and_true, num.injEq, WifiBand.value_injective.eq_iff, WifiSecurity.value_injective.eq_iff] at h
  obtain ⟨rfl, rfl, hc, rfl, hs⟩ := h
  cases Subtype.ext hc
  cases Subtype.ext hs
  rfl

theorem FirewallConfig.json_injective : Function.Injective FirewallConfig.json := by
  intro a b h
  cases a
  cases b
  simp only [FirewallConfig.json, obj.injEq, List.cons.injEq, Prod.mk.injEq, true_and, bool.injEq,
    and_true, ports_injective.eq_iff] at h
  obtain ⟨rfl, rfl, rfl, rfl⟩ := h
  rfl

theorem WgServerConfig.json_injective : Function.Injective WgServerConfig.json := by
  intro a b h
  cases a
  cases b
  simp only [WgServerConfig.json, obj.injEq, List.cons.injEq, Prod.mk.injEq, true_and, str.injEq,
    and_true, port_injective.eq_iff, network_injective.eq_iff] at h
  obtain ⟨he, rfl, hs⟩ := h
  rw [Subtype.ext he, Subtype.ext hs]

theorem DnsConfig.json_injective : Function.Injective DnsConfig.json := by
  intro a b h
  have hu : Function.Injective fun url : DohUrl => str url.val := fun _ _ h =>
    Subtype.ext (str.inj h)
  cases a
  cases b
  simp only [DnsConfig.json, obj.injEq, List.cons.injEq, Prod.mk.injEq, true_and, bool.injEq,
    and_true, arr.injEq, port_injective.eq_iff, (List.map_injective_iff.mpr hu).eq_iff] at h
  obtain ⟨rfl, rfl, rfl⟩ := h
  rfl

theorem NetworkConfig.json_injective : Function.Injective NetworkConfig.json := by
  intro a b h
  have hd := option_inj DhcpConfig.json_injective (fun _ h => nomatch h)
  have hw := option_inj WifiConfig.json_injective (fun _ h => nomatch h)
  have hs := option_inj (fun _ _ => str.inj) str_ne_null
  obtain ⟨⟨⟩, _⟩ := a
  obtain ⟨⟨⟩, _⟩ := b
  simp only [NetworkConfig.json, NetworkConfig.lanMembers, NetworkConfig.wifiJson, obj.injEq,
    List.cons_append, List.nil_append, List.cons.injEq, Prod.mk.injEq, true_and, str.injEq,
    and_true, hd.eq_iff, hw.eq_iff, hs.eq_iff, address_injective.eq_iff, network_injective.eq_iff,
    NetworkMode.value_injective.eq_iff] at h
  obtain ⟨rfl, rfl, rfl, rfl, rfl, rfl, rfl⟩ := h
  rfl

namespace Fields

variable {hash : String → String} {c d : Fields}

theorem corePart_eq (h : c.corePart = d.corePart) :
    c.network = d.network ∧ c.firewall = d.firewall ∧ c.wgServer = d.wgServer ∧ c.dns = d.dns ∧
      c.ui.enabled = d.ui.enabled ∧ c.ui.hostName = d.ui.hostName := by
  have hn := option_inj NetworkConfig.json_injective (fun _ h => nomatch h)
  have hw := option_inj WgServerConfig.json_injective (fun _ h => nomatch h)
  simp only [corePart, adguardPart, wgServerPart, obj.injEq, List.cons.injEq, Prod.mk.injEq,
    true_and, and_true, str.injEq, bool.injEq, hn.eq_iff, hw.eq_iff,
    FirewallConfig.json_injective.eq_iff, DnsConfig.json_injective.eq_iff] at h
  obtain ⟨⟨hdns, -, hui, hhost⟩, -, -, hwg, hf, hnet⟩ := h
  exact ⟨hnet, hf, hwg, hdns, hui, Subtype.ext hhost⟩

theorem envVars_core (c : Fields) :
    (c.envVars hash).lookup digestCore = some (configDigest hash c.corePart) := by
  have hn : c.networkEnv.lookup digestCore = none := by
    cases h : c.network with
    | none => rw [networkEnv, h]; rfl
    | some network =>
      rw [networkEnv, h]
      cases c.ui.variant <;> rfl
  have hp : c.providerEnv.lookup digestCore = none := by
    rw [providerEnv]
    cases c.provider.enabled <;> rfl
  rw [envVars, List.lookup_append, List.lookup_append, List.lookup_append, hn, hp]
  rfl

theorem envVars_api (c : Fields) :
    (c.envVars hash).lookup "VIBEDPN_API_PORT" = some (toString c.api.port.val) := rfl

end Fields

end VibeDPN
