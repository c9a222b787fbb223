import VibeDPN.Config.Digests
import VibeDPN.Engine.Adguard
import VibeDPN.Engine.Firewall
import VibeDPN.Engine.WgRegistry

namespace VibeDPN

open Text Inet

def ctrlDir : String := "/run/vibedpn/hostapd"

def dnsmasqDir : String := "/var/lib/vibedpn-dnsmasq"

def leaseFile : String := "leases"

def hwMode : WifiBand → String
  | .band24 => "g"
  | .band5 => "a"

def keyMgmt : WifiSecurity → String
  | .wpa2Wpa3 => "WPA-PSK SAE"
  | .wpa3 => "SAE"

def frameProtection : WifiSecurity → Nat
  | .wpa2Wpa3 => 1
  | .wpa3 => 2

def saePweBoth : Nat := 2

def stableApLines : List String := ["ieee80211n=1", "wmm_enabled=1", "disassoc_low_ack=0"]

def ctrlInterfaceLines : List String := ["ctrl_interface=" ++ ctrlDir, "ctrl_interface_group=0"]

namespace Fields

def dnsmasqConf (c : Fields) : Option String :=
  match c.network with
  | none => none
  | some network =>
    if network.mode ≠ .gateway then none
    else
      let (start, last) := network.dhcpPool
      let lease := match network.dhcp with
        | some dhcp => dhcp.lease.val
        | none => "12h"
      some (lines
        (["# Rendered by vibedpn core from config.yaml at every start; edit config.yaml instead.",
          "port=0",
          "interface=" ++ network.lanInterface,
          "bind-interfaces",
          "dhcp-authoritative",
          "dhcp-range=" ++ start.str ++ "," ++ last.str ++ "," ++ lease,
          "dhcp-option=option:router," ++ network.lanAddress.str,
          "dhcp-leasefile=" ++ dnsmasqDir ++ "/" ++ leaseFile] ++
        if c.dns.enabled then ["dhcp-option=option:dns-server," ++ network.lanAddress.str] else []))

def hostapdConf (c : Fields) (passphrase : String) : Option String :=
  match c.network with
  | none => none
  | some network =>
    match network.wifi with
    | none => none
    | some wifi =>
      if network.mode ≠ .gateway then none
      else some (lines
        (["# Rendered by vibedpn core from config.yaml and secrets/wifi-passphrase at every start.",
          "interface=" ++ network.lanInterface,
          "driver=nl80211"] ++
        ctrlInterfaceLines ++
        ["ssid=" ++ wifi.ssid.val,
          "country_code=" ++ wifi.country.val,
          "hw_mode=" ++ hwMode wifi.band,
          "channel=" ++ toString wifi.channel] ++
        stableApLines ++
        ["wpa=2",
          "wpa_key_mgmt=" ++ keyMgmt wifi.security,
          "rsn_pairwise=CCMP",
          "ieee80211w=" ++ toString (frameProtection wifi.security),
          "sae_pwe=" ++ toString saePweBoth,
          "wpa_passphrase=" ++ passphrase]))

def serverConf (c : Fields) (privateKey : String) (registry : List Peer) :
    Option (Except String String) :=
  match c.wgServer with
  | none => none
  | some server => some (match server.fitToSubnet registry with
    | .error e => .error e
    | .ok (placed, _) => .ok (server.renderServerConf privateKey placed))

def withMode (c : Fields) (mode : RoutingMode) : Fields :=
  { c with
    routing := match c.routing with
      | none => none
      | some routing => some { routing with mode := mode } }

-- everything core derives from the configuration only at its start
structure SameStart (c d : Fields) : Prop where
  firewall : c.firewallRuleset = d.firewallRuleset
  egress : c.egressRuleset = d.egressRuleset
  dockerUser : c.dockerUserRules = d.dockerUserRules
  dnsmasq : c.dnsmasqConf = d.dnsmasqConf
  hostapd : ∀ passphrase, c.hostapdConf passphrase = d.hostapdConf passphrase
  adguard : ∀ mode hash existing hashed previous password,
    ensureAdguard hash existing (c.withMode mode) hashed previous password =
      ensureAdguard hash existing (d.withMode mode) hashed previous password
  server : ∀ key registry, c.serverConf key registry = d.serverConf key registry

end Fields

theorem lines_append (l m : List String) : lines (l ++ m) = lines l ++ lines m := by
  rw [← String.toList_inj]
  simp [lines]

-- what the two digests leave open is the range of the node
structure SameSections (c d : Fields) : Prop where
  network : c.network = d.network
  firewall : c.firewall = d.firewall
  wgServer : c.wgServer = d.wgServer
  dns : c.dns = d.dns
  uiEnabled : c.ui.enabled = d.ui.enabled
  uiHostName : c.ui.hostName = d.ui.hostName
  api : c.api.port = d.api.port

theorem sameSections {hash : String → String} (hh : Function.Injective hash) {c d : Fields}
    (hcore : (c.envVars hash).lookup digestCore = (d.envVars hash).lookup digestCore)
    (hport : (c.envVars hash).lookup "VIBEDPN_API_PORT" =
      (d.envVars hash).lookup "VIBEDPN_API_PORT") : SameSections c d := by
  rw [Fields.envVars_core, Fields.envVars_core, Option.some.injEq] at hcore
  rw [Fields.envVars_api, Fields.envVars_api, Option.some.injEq] at hport
  obtain ⟨hn, hf, hw, hd, hu, hhost⟩ := Fields.corePart_eq (Json.dumps_injective (hh hcore))
  exact ⟨hn, hf, hw, hd, hu, hhost, Subtype.ext (Nat.repr_injective hport)⟩

theorem Config.vps_iff (c : Config) : c.role = .vps ↔ c.network = none := by
  constructor
  · exact fun hv => (Config.vps_sections hv).1
  · intro hn
    by_contra hv
    simpa [hn] using (Config.lan_sections hv).1

theorem Config.vps_provider {c : Config} (hv : c.role = .vps) : c.provider.enabled = true := by
  have h := c.role_valid
  simp only [Fields.roleErrors, hv, if_true, Fields.vpsErrors, List.append_eq_nil_iff] at h
  by_contra hn
  simp [hn] at h

namespace SameSections

variable {c d : Config}

theorem role (h : SameSections c.toFields d.toFields) : c.role = .vps ↔ d.role = .vps := by
  rw [c.vps_iff, d.vps_iff, h.network]

theorem egress (h : SameSections c.toFields d.toFields) :
    c.egressRuleset = d.egressRuleset ∧ c.dockerUserRules = d.dockerUserRules := by
  simp only [Fields.egressRuleset, Fields.dockerUserRules, h.wgServer, ne_eq, h.role, and_self]

theorem dnsmasq {c d : Fields} (h : SameSections c d) : c.dnsmasqConf = d.dnsmasqConf := by
  simp only [Fields.dnsmasqConf, h.network, h.dns]

theorem hostapd {c d : Fields} (h : SameSections c d) (passphrase : String) :
    c.hostapdConf passphrase = d.hostapdConf passphrase := by
  simp only [Fields.hostapdConf, h.network]

theorem server {c d : Fields} (h : SameSections c d) (key : String) (registry : List Peer) :
    c.serverConf key registry = d.serverConf key registry := by
  simp only [Fields.serverConf, h.wgServer]

theorem hasMode_withMode {c : Fields} (h : c.routing.isSome) (mode other : RoutingMode) :
    (c.withMode mode).hasMode other = decide (mode = other) := by
  cases hr : c.routing with
  | none => simp [hr] at h
  | some routing => simp only [Fields.hasMode, Fields.withMode, hr]

theorem adguard (h : SameSections c.toFields d.toFields) (mode : RoutingMode)
    (hash : Option String → String → String) (existing : Option AdguardFile) (hashed : String)
    (previous password : Option String) :
    ensureAdguard hash existing (c.withMode mode) hashed previous password =
      ensureAdguard hash existing (d.withMode mode) hashed previous password := by
  by_cases hv : c.role = .vps
  · have hc : (c.withMode mode).network = none := c.vps_iff.mp hv
    have hd : (d.withMode mode).network = none := d.vps_iff.mp (h.role.mp hv)
    rw [ensureAdguard, ensureAdguard, if_pos (.inl hc), if_pos (.inl hd)]
  · have hc := hasMode_withMode (Config.lan_sections hv).2 mode
    have hd := hasMode_withMode (Config.lan_sections (mt h.role.mpr hv)).2 mode
    have hn : (c.withMode mode).network = (d.withMode mode).network := h.network
    have hdns : (c.withMode mode).dns = (d.withMode mode).dns := h.dns
    have hui : (c.withMode mode).ui.enabled = (d.withMode mode).ui.enabled := h.uiEnabled
    have hhost : (c.withMode mode).ui.hostName = (d.withMode mode).ui.hostName := h.uiHostName
    simp only [ensureAdguard, adguardText, setManaged, setBoxName, dnsUpstreams, hc, hd, hn, hdns,
      hui, hhost]

theorem inputChain {c d : Fields} (h : SameSections c d)
    (hp : c.provider.enabled = d.provider.enabled) : c.inputChain = d.inputChain := by
  simp only [Fields.inputChain, Fields.tunnelOnly, Fields.wgPort, Fields.mystPort,
    Fields.tunnelPorts, h.wgServer, h.firewall, h.api, hp]

end SameSections

theorem udpRange_injective : Function.Injective udpRange := by
  intro a b h
  have hl := congrArg (fun s : String => s.toList ++ []) h
  simp only [udpRange, String.toList_append, List.append_assoc] at hl
  have hstop : ∀ s : List Char, Json.Stops (("-" : String).toList ++ s) := fun s => by
    intro c hc
    obtain rfl : '-' = c := by simpa using hc
    rfl
  have hnil : Json.Stops [] := fun c hc => by simp at hc
  obtain ⟨h1, hr⟩ := Json.nat_inj (hstop _) (hstop _) hl
  obtain ⟨h2, -⟩ := Json.nat_inj hnil hnil (List.append_cancel_left hr)
  exact Prod.ext h1 h2

theorem mystSet_iff {c d : Fields} (hc : c.provider.enabled = true)
    (hd : d.provider.enabled = true) :
    lines c.mystSet = lines d.mystSet ↔
      c.provider.udpPorts.bounds = d.provider.udpPorts.bounds := by
  constructor
  · intro h
    apply udpRange_injective
    rw [Fields.mystSet, Fields.mystSet, if_pos hc, if_pos hd, ← String.toList_inj] at h
    simp only [lines, List.map_cons, List.map_nil, String.join_cons, String.join_nil,
      String.toList_append, List.append_assoc, List.append_cancel_left_eq,
      List.append_cancel_right_eq] at h
    exact String.toList_inj.mp h
  · intro h
    rw [Fields.mystSet, Fields.mystSet, if_pos hc, if_pos hd, h]

theorem firewall_iff {c d : Config} (h : SameSections c.toFields d.toFields) :
    c.firewallRuleset = d.firewallRuleset ↔
      c.role ≠ .vps ∨ c.firewall.enabled = false ∨
        c.provider.udpPorts.bounds = d.provider.udpPorts.bounds := by
  by_cases hoff : c.role ≠ .vps ∨ c.firewall.enabled = false
  · have hoff' : d.role ≠ .vps ∨ d.firewall.enabled = false := by
      rwa [ne_eq, ← h.role, ← h.firewall]
    rw [Fields.firewallRuleset, Fields.firewallRuleset, if_pos hoff, if_pos hoff']
    exact ⟨fun _ => hoff.elim .inl (.inr ∘ .inl), fun _ => rfl⟩
  · have hoff' : ¬(d.role ≠ .vps ∨ d.firewall.enabled = false) := by
      rwa [ne_eq, ← h.role, ← h.firewall]
    have hon := not_or.mp hoff
    have hc := Config.vps_provider (not_not.mp hon.1)
    have hd := Config.vps_provider (not_not.mp (not_or.mp hoff').1)
    have hin := h.inputChain (hc.trans hd.symm)
    rw [Fields.firewallRuleset, Fields.firewallRuleset, if_neg hoff, if_neg hoff',
      Option.some.injEq, lines_append, lines_append, lines_append, lines_append, hin]
    constructor
    · intro he
      refine .inr (.inr ((mystSet_iff hc hd).mp ?_))
      rw [← String.toList_inj] at he ⊢
      simpa only [String.toList_append, List.append_assoc, List.append_cancel_left_eq,
        List.append_cancel_right_eq] using he
    · rintro (hv | hf | hb)
      · exact absurd hv hon.1
      · exact absurd hf hon.2
      · rw [(mystSet_iff hc hd).mpr hb]

theorem same_start_iff {hash : String → String} (hh : Function.Injective hash) {c d : Config}
    (hcore : (c.envVars hash).lookup digestCore = (d.envVars hash).lookup digestCore)
    (hport : (c.envVars hash).lookup "VIBEDPN_API_PORT" =
      (d.envVars hash).lookup "VIBEDPN_API_PORT") :
    Fields.SameStart c.toFields d.toFields ↔
      c.role ≠ .vps ∨ c.firewall.enabled = false ∨
        c.provider.udpPorts.bounds = d.provider.udpPorts.bounds := by
  have h := sameSections hh hcore hport
  constructor
  · exact fun hs => (firewall_iff h).mp hs.firewall
  · intro hb
    exact ⟨(firewall_iff h).mpr hb, h.egress.1, h.egress.2, h.dnsmasq, h.hostapd, h.adguard,
      h.server⟩

theorem PortRange.bounds_eq {r : PortRange} {b : Nat × Nat} (h : parsePortRange r.val = some b) :
    r.bounds = b := by
  simp only [PortRange.bounds, h, Option.get_some]

theorem wideRange_checked : isPortRange "50000-50100" = true := by decide

def vpsNode : Config where
  role := .vps
  provider := { enabled := true }
  wgServer := some vpsServer
  valid := by decide

def vpsManual : Config where
  role := .vps
  provider := { enabled := true, traversal := [.manual], checked := by decide }
  wgServer := some vpsServer
  valid := by decide

def vpsWide : Config where
  role := .vps
  provider := { enabled := true, udpPorts := ⟨"50000-50100", wideRange_checked⟩ }
  wgServer := some vpsServer
  valid := by decide

theorem traversal_starts_same : Fields.SameStart vpsNode.toFields vpsManual.toFields :=
  (same_start_iff Function.injective_id (c := vpsNode) (d := vpsManual) rfl rfl).mpr
    (.inr (.inr rfl))

theorem udp_range_unseen : Function.Injective (id : String → String) ∧
    (vpsNode.envVars id).lookup digestCore = (vpsWide.envVars id).lookup digestCore ∧
    (vpsNode.envVars id).lookup "VIBEDPN_API_PORT" =
      (vpsWide.envVars id).lookup "VIBEDPN_API_PORT" ∧
    ¬ Fields.SameStart vpsNode.toFields vpsWide.toFields := by
  have hpart : vpsNode.corePart = vpsWide.corePart := rfl
  have hport : vpsNode.api.port = vpsWide.api.port := rfl
  refine ⟨Function.injective_id, ?_, ?_, fun h => ?_⟩
  · rw [Fields.envVars_core, Fields.envVars_core, hpart]
  · rw [Fields.envVars_api, Fields.envVars_api, hport]
  have hs : SameSections vpsNode.toFields vpsWide.toFields := ⟨rfl, rfl, rfl, rfl, rfl, rfl, rfl⟩
  rcases (firewall_iff hs).mp h.firewall with hv | hf | hb
  · exact hv rfl
  · have hon : vpsNode.firewall.enabled = true := rfl
    simp [hon] at hf
  · have hw : vpsWide.provider.udpPorts.bounds = (50000, 50100) := PortRange.bounds_eq rfl
    have hn : vpsNode.provider.udpPorts.bounds = (56000, 56100) := PortRange.bounds_eq rfl
    rw [hn, hw] at hb
    exact absurd hb (by decide)

end VibeDPN
