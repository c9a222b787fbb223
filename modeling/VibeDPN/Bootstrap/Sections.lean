import VibeDPN.Bootstrap.Validate

namespace VibeDPN

open Text Inet Yaml

def quotedLeaf (s : String) : Written := .scalar (.word (.quoted (tojsonBody s.toList)))

def flowLeaf (items : List String) : Written := .scalar (.flow (items.map .plain))

theorem isName_bool (b : Bool) : isName (tojsonBool b) = true := by
  cases b
  all_goals decide

set_option maxRecDepth 4000

theorem reads_head (role : Role) :
    Reads 0 (headLines role) [("version", leaf "1"), ("role", leaf role.value)] := by
  have hi : tokens introLines = some [] := by
    repeat refine tokens_quiet (by decide) ?_
    rfl
  have hh : tokens roleHelp = some [] := by
    repeat refine tokens_quiet (by decide) ?_
    rfl
  have hr : isName role.value = true := by
    cases role
    all_goals decide
  simp only [headLines, List.append_assoc, List.cons_append, List.nil_append]
  exact Reads.quiet hi (Reads.literal (Reads.quiet hh (Reads.name .nil (by decide) hr))
    (by decide))

def routingTree (key : String) : List (String × Written) :=
  [("mode", leaf "off"), ("default_upstream", leaf key), ("failopen", leaf "false"),
    ("domains", flowLeaf []), ("lists", flowLeaf []), ("networks", flowLeaf [])]

theorem reads_routing (key : UplinkKey) (hk : isName key.val = true) :
    Reads 0 ({ defaultUpstream := key } : RoutingConfig).lines
      [("routing", .map (routingTree key.val))] := by
  have hq : tokens routingHelp = some [] := by
    repeat refine tokens_quiet (by decide) ?_
    rfl
  have hd : Reads 2 noDomains [("domains", flowLeaf [])] := by
    refine Reads.literal (Reads.silent ?_) (by decide)
    repeat refine tokens_quiet (by decide) ?_
    rfl
  have hl : Reads 2 noLists [("lists", flowLeaf [])] := by
    refine Reads.literal (Reads.silent ?_) (by decide)
    repeat refine tokens_quiet (by decide) ?_
    rfl
  have hn : Reads 2 noNetworks [("networks", flowLeaf [])] := by
    refine Reads.literal (Reads.silent ?_) (by decide)
    repeat refine tokens_quiet (by decide) ?_
    rfl
  simp only [RoutingConfig.lines, List.append_assoc, List.cons_append, List.nil_append]
  refine Reads.quiet hq (Reads.section (m := 2) (e := routingTree key.val) ?_ (by decide)
    (by decide) (List.cons_ne_nil _ _) (by simp [routingTree]))
  exact Reads.name (Reads.name (Reads.name (hd.append (hl.append hn)) (by decide) (by decide))
    (by decide) hk) (by decide) (by decide)

theorem reads_devices : Reads 0 (devicesLines []) [("devices", flowLeaf [])] := by
  have hq : tokens devicesHelp = some [] := by
    repeat refine tokens_quiet (by decide) ?_
    rfl
  refine Reads.quiet hq (Reads.literal (Reads.silent ?_) (by decide))
  repeat refine tokens_quiet (by decide) ?_
  rfl

def upstreamsTree (vps dpn : Bool) : List (String × Written) :=
  [("vps", .map [("enabled", leaf (tojsonBool vps)), ("lan_access", leaf "false")]),
    ("dpn", .map [("enabled", leaf (tojsonBool dpn))]),
    ("tor", .map [("enabled", leaf "false")])]

theorem reads_upstreams (vps dpn : Bool) :
    Reads 0 ({ vps := { enabled := vps }, dpn := { enabled := dpn } } : UpstreamsConfig).lines
      [("upstreams", .map (upstreamsTree vps dpn))] := by
  have hq : tokens upstreamsHelp = some [] := by
    repeat refine tokens_quiet (by decide) ?_
    rfl
  have ha : tokens lanAccessHelp = some [] := by
    repeat refine tokens_quiet (by decide) ?_
    rfl
  have hc : tokens noCountry = some [] := by
    repeat refine tokens_quiet (by decide) ?_
    rfl
  have hw : tokens noWg = some [] := by
    repeat refine tokens_quiet (by decide) ?_
    rfl
  have hr : tokens torHelp = some [] := by
    repeat refine tokens_quiet (by decide) ?_
    rfl
  have hv : Reads 2 ("  vps:" :: ("    enabled: " ++ tojsonBool vps) ::
      (lanAccessHelp ++ ["    lan_access: " ++ tojsonBool false]))
      [("vps", .map [("enabled", leaf (tojsonBool vps)), ("lan_access", leaf "false")])] :=
    Reads.section (m := 4) (Reads.name (Reads.quiet ha (Reads.name .nil (by decide) (by decide)))
      (by decide) (isName_bool vps)) (by decide) (by decide) (List.cons_ne_nil _ _) (by simp)
  have hd : Reads 2 ["  dpn:", "    enabled: " ++ tojsonBool dpn]
      [("dpn", .map [("enabled", leaf (tojsonBool dpn))])] :=
    Reads.section (m := 4) (Reads.name .nil (by decide) (isName_bool dpn)) (by decide)
      (by decide) (List.cons_ne_nil _ _) (by simp)
  have ht : Reads 2 ["  tor:", "    enabled: " ++ tojsonBool false]
      [("tor", .map [("enabled", leaf "false")])] :=
    Reads.section (m := 4) (Reads.name .nil (by decide) (by decide)) (by decide)
      (by decide) (List.cons_ne_nil _ _) (by simp)
  have hl : ({ vps := { enabled := vps }, dpn := { enabled := dpn } } : UpstreamsConfig).lines =
      upstreamsHelp ++ "upstreams:" ::
        ("  vps:" :: ("    enabled: " ++ tojsonBool vps) ::
          (lanAccessHelp ++ ["    lan_access: " ++ tojsonBool false]) ++
        (["  dpn:", "    enabled: " ++ tojsonBool dpn] ++
        (noCountry ++ (noWg ++ (torHelp ++ ["  tor:", "    enabled: " ++ tojsonBool false]))))) := by
    have hs : listed "  wg:" (sortedWg Dict.empty) wgUplinkLines noWg = noWg := rfl
    simp only [UpstreamsConfig.lines, hs, List.append_assoc, List.cons_append, List.nil_append]
  rw [hl]
  exact Reads.quiet hq (Reads.section (m := 2) (e := upstreamsTree vps dpn)
    (hv.append (hd.append (Reads.quiet hc (Reads.quiet hw (Reads.quiet hr ht))))) (by decide) (by decide)
    (List.cons_ne_nil _ _) (by simp [upstreamsTree]))

def providerTree (enabled : Bool) : List (String × Written) :=
  [("enabled", leaf (tojsonBool enabled)),
    ("udp_ports", .scalar (.word (.quoted "56000-56100".toList))),
    ("traversal", flowLeaf ["manual", "upnp", "holepunching"])]

theorem reads_provider (enabled : Bool) :
    Reads 0 ({ enabled := enabled } : ProviderConfig).lines
      [("provider", .map (providerTree enabled))] := by
  have hq : tokens providerHelp = some [] := by
    repeat refine tokens_quiet (by decide) ?_
    rfl
  have hp : scan ("  udp_ports: \"" ++ defaultUdpPorts.val ++ "\"").toList =
      some [(2, .entry "udp_ports" (some (.word (.quoted "56000-56100".toList))))] := by
    decide
  have ht : scan ("  traversal: [" ++ commaJoin (defaultTraversal.map Traversal.value) ++
      "]").toList = some [(2, .entry "traversal"
        (some (.flow [.plain "manual", .plain "upnp", .plain "holepunching"])))] := by
    decide
  exact Reads.quiet hq (Reads.section (m := 2) (e := providerTree enabled)
    (Reads.name (Reads.cons hp (Reads.cons ht .nil)) (by decide) (isName_bool enabled))
    (by decide) (by decide) (List.cons_ne_nil _ _) (by simp [providerTree]))

def dnsTree : List (String × Written) :=
  [("enabled", leaf "true"), ("upstreams", .seq [leaf "https://dns.cloudflare.com/dns-query"]),
    ("web_port", leaf "3000")]

theorem reads_dns : Reads 0 ({} : DnsConfig).lines [("dns", .map dnsTree)] := by
  have hq : tokens dnsHelp = some [] := by
    repeat refine tokens_quiet (by decide) ?_
    rfl
  have hu : Reads 2 ["  upstreams:", "    - " ++ cloudflare.val]
      [("upstreams", .seq [leaf "https://dns.cloudflare.com/dns-query"])] := by
    have hl : tokens ["    - " ++ cloudflare.val] = some
        [(4, .item (some (.word (.plain "https://dns.cloudflare.com/dns-query"))))] := by
      decide
    refine reads_nested (by decide) hl (by simp) (by simp [forest, plant, Rose.indent]) ?_
    simp [forest, plant, nested, block, entries, items, aligned, Rose.indent, leaf]
  have hl : ({} : DnsConfig).lines = dnsHelp ++ "dns:" :: ("  enabled: " ++ tojsonBool true) ::
      (["  upstreams:", "    - " ++ cloudflare.val] ++ ["  web_port: " ++ toString 3000]) := by
    simp only [DnsConfig.lines, List.map_cons, List.map_nil, List.append_assoc, List.cons_append,
      List.nil_append, adguardPort]
  rw [hl]
  exact Reads.quiet hq (Reads.section (m := 2) (e := dnsTree)
    (Reads.name (hu.append (Reads.name .nil (by decide) (by decide))) (by decide) (by decide))
    (by decide) (by decide) (List.cons_ne_nil _ _) (by simp [dnsTree]))

def uiTree (variant : UiVariant) : List (String × Written) :=
  [("enabled", leaf "true"), ("port", leaf "80"), ("host_name", leaf "vibedpn.lan"),
    ("variant", leaf variant.value), ("language", leaf "ru")]

theorem reads_ui (variant : UiVariant) :
    Reads 0 ({ variant := variant } : UiConfig).lines [("ui", .map (uiTree variant))] := by
  have hq : tokens uiHelp = some [] := by
    repeat refine tokens_quiet (by decide) ?_
    rfl
  have hh : tokens hostNameHelp = some [] := by
    repeat refine tokens_quiet (by decide) ?_
    rfl
  have hv : tokens variantHelp = some [] := by
    repeat refine tokens_quiet (by decide) ?_
    rfl
  have hl : tokens languageHelp = some [] := by
    repeat refine tokens_quiet (by decide) ?_
    rfl
  have hn : isName variant.value = true := by
    cases variant
    all_goals decide
  simp only [UiConfig.lines, List.append_assoc, List.cons_append, List.nil_append]
  refine Reads.quiet hq (Reads.section (m := 2) (e := uiTree variant) ?_ (by decide)
    (by decide) (List.cons_ne_nil _ _) (by simp [uiTree]))
  refine Reads.name (Reads.name (Reads.quiet hh (Reads.name (Reads.quiet hv (Reads.name
    (Reads.quiet hl (Reads.name .nil (by decide) (by decide))) (by decide) hn)) (by decide)
    (by decide))) (by decide) (by decide)) (by decide) (by decide)

theorem reads_api : Reads 0 ({} : ApiConfig).lines [("api", .map [("port", leaf "4480")])] := by
  have hq : tokens apiHelp = some [] := by
    repeat refine tokens_quiet (by decide) ?_
    rfl
  exact Reads.quiet hq (Reads.section (m := 2) (Reads.name .nil (by decide) (by decide))
    (by decide) (by decide) (List.cons_ne_nil _ _) (by simp))

theorem isName_interface {s : String} (h : isInterface s = true) : isName s = true := by
  simp only [isInterface, Bool.and_eq_true, decide_eq_true_eq, List.all_eq_true] at h
  refine isName_iff.mpr ⟨?_, fun c hc => ?_⟩
  · rintro hn
    simp [hn] at h
  · have hcs := h.2 c hc
    simp only [Bool.or_eq_true, decide_eq_true_eq, List.mem_cons, List.not_mem_nil, or_false,
      isLower, isNumber] at hcs
    simp only [isNameChar, isDigit, Bool.or_eq_true, decide_eq_true_eq, List.mem_cons,
      List.not_mem_nil, or_false]
    tauto

theorem isName_hostname {s : String} (h : isHostname s = true) : isName s = true := by
  simp only [isHostname, Bool.and_eq_true, decide_eq_true_eq, List.all_eq_true] at h
  refine isName_iff.mpr ⟨?_, fun c hc => ?_⟩
  · rintro hn
    have hl := h.2 [] (by simp [hn])
    simp [isHostLabel] at hl
  · rcases mem_splitOn_of_mem (x := '.') hc with rfl | ⟨p, hp, hcp⟩
    · decide
    · have hl := h.2 p hp
      simp only [isHostLabel, Bool.and_eq_true, List.all_eq_true] at hl
      have hcs := hl.1.1.2 c hcp
      simp only [isLabelChar, isLower, isNumber, Bool.or_eq_true, decide_eq_true_eq] at hcs
      simp only [isNameChar, isDigit, Bool.or_eq_true, decide_eq_true_eq, List.mem_cons,
        List.not_mem_nil, or_false]
      tauto

theorem isName_country (c : Country) : isName c.val = true := by
  have h := c.property
  simp only [isCountry, Bool.and_eq_true, decide_eq_true_eq, List.all_eq_true] at h
  refine isName_iff.mpr ⟨fun hn => by simp [hn] at h, fun x hx => ?_⟩
  have hxs := h.2 x hx
  simp only [isNameChar, Bool.or_eq_true, Bool.and_eq_true, decide_eq_true_eq]
  tauto

def wifiTree (w : WifiConfig) : List (String × Written) :=
  [("ssid", quotedLeaf w.ssid.val), ("country", leaf w.country.val),
    ("band", .scalar (.word (.quoted w.band.value.toList))), ("channel", leaf (toString w.channel)),
    ("security", leaf w.security.value)]

theorem reads_wifi (w : WifiConfig) : Reads 2 w.lines [("wifi", .map (wifiTree w))] := by
  have hq : tokens wifiHelp = some [] := by
    repeat refine tokens_quiet (by decide) ?_
    rfl
  have hb : scan ("    band: \"" ++ w.band.value ++ "\"").toList =
      some [(4, .entry "band" (some (.word (.quoted w.band.value.toList))))] := by
    cases w.band
    all_goals decide
  have hs : isName w.security.value = true := by
    cases w.security
    all_goals decide
  refine Reads.quiet hq (Reads.section (m := 4) (e := wifiTree w) ?_ (by decide)
    (by decide) (List.cons_ne_nil _ _) (by simp [wifiTree]))
  refine Reads.cons (scan_entry (by decide) (line_tojson _) (scalar_tojson _)) (Reads.name ?_
    (by decide) (isName_country _))
  exact Reads.cons hb (Reads.name (Reads.name .nil (by decide) hs) (by decide) (isName_number _))

def dhcpTree (start last : IPv4Address) : List (String × Written) :=
  [("range_start", leaf start.str), ("range_end", leaf last.str), ("lease", leaf "12h")]

def sidecarTree (name : String) (subnet : IPv4Network) (address : IPv4Address) :
    List (String × Written) :=
  [("mode", leaf "sidecar"), ("lan_interface", leaf name), ("lan_subnet", leaf subnet.str),
    ("lan_address", leaf address.str)]

def gatewayTree (name : String) (subnet : IPv4Network) (address : IPv4Address) (wan : String)
    (start last : IPv4Address) (wifi : Option WifiConfig) : List (String × Written) :=
  [("mode", leaf "gateway"), ("lan_interface", leaf name), ("lan_subnet", leaf subnet.str),
    ("lan_address", leaf address.str), ("wan_interface", leaf wan),
    ("dhcp", .map (dhcpTree start last))] ++
    wifi.toList.map fun w => ("wifi", .map (wifiTree w))

theorem reads_dhcp {n : NetworkSection} {start last : IPv4Address} (hm : n.mode = .gateway)
    (hd : n.dhcp = some { rangeStart := some start, rangeEnd := some last }) :
    Reads 2 n.dhcpLines [("dhcp", .map (dhcpTree start last))] := by
  have hq : tokens dhcpHelp = some [] := by
    repeat refine tokens_quiet (by decide) ?_
    rfl
  have hp : n.dhcpPool = (start, last) := by
    rw [NetworkSection.dhcpPool, hd]
    rfl
  rw [NetworkSection.dhcpLines, if_pos hm, hp, hd]
  refine Reads.quiet hq (Reads.section (m := 4) (e := dhcpTree start last) ?_ (by decide)
    (by decide) (List.cons_ne_nil _ _) (by simp [dhcpTree]))
  have hs : isName "12h" = true := by decide
  exact Reads.name (Reads.name (Reads.name .nil (by decide) hs) (by decide)
    (isName_address last)) (by decide) (isName_address start)

theorem quiet_network : tokens networkHelp = some [] := by
  repeat refine tokens_quiet (by decide) ?_
  rfl

theorem reads_sidecar {n : NetworkSection} {name : String} {subnet : IPv4Network}
    {address : IPv4Address}
    (hn : n = { lanInterface := name, lanSubnet := subnet, lanAddress := address })
    (hi : isInterface name = true) :
    Reads 0 n.lines [("network", .map (sidecarTree name subnet address))] := by
  have hg : tokens gatewayHelp = some [] := by
    repeat refine tokens_quiet (by decide) ?_
    rfl
  have hl : n.lines = networkHelp ++ "network:" :: ("  mode: " ++ NetworkMode.sidecar.value) ::
      ("  lan_interface: " ++ name) :: ("  lan_subnet: " ++ subnet.str) ::
      ("  lan_address: " ++ address.str) :: (gatewayHelp ++ []) := by
    simp [hn, NetworkSection.lines, given, NetworkSection.dhcpLines]
  rw [hl]
  refine Reads.quiet quiet_network (Reads.section (m := 2) (e := sidecarTree name subnet address) ?_
    (by decide) (by decide) (List.cons_ne_nil _ _) (by simp [sidecarTree]))
  exact Reads.name (Reads.name (Reads.name (Reads.name (Reads.quiet hg .nil) (by decide)
    (isName_address address)) (by decide) (isName_network subnet)) (by decide)
    (isName_interface hi)) (by decide) (by decide)

theorem reads_gateway {n : NetworkSection} {name wan : String} {subnet : IPv4Network}
    {address start last : IPv4Address} {wifi : Option WifiConfig}
    (hn : n = { mode := .gateway, lanInterface := name, lanSubnet := subnet, lanAddress := address,
                wanInterface := some wan,
                dhcp := some { rangeStart := some start, rangeEnd := some last }, wifi := wifi })
    (hi : isInterface name = true) (hw : isInterface wan = true) :
    Reads 0 n.lines [("network", .map (gatewayTree name subnet address wan start last wifi))] := by
  have hd : Reads 2 n.dhcpLines [("dhcp", .map (dhcpTree start last))] :=
    reads_dhcp (by rw [hn]) (by rw [hn])
  have ha : Reads 2 (given wifi WifiConfig.lines)
      (wifi.toList.map fun w => ("wifi", .map (wifiTree w))) := by
    cases wifi with
    | none => exact .nil
    | some w => exact reads_wifi w
  have hl : n.lines = networkHelp ++ "network:" :: ("  mode: " ++ NetworkMode.gateway.value) ::
      ("  lan_interface: " ++ name) :: ("  lan_subnet: " ++ subnet.str) ::
      ("  lan_address: " ++ address.str) :: ("  wan_interface: " ++ wan) ::
      (n.dhcpLines ++ given wifi WifiConfig.lines) := by
    rw [NetworkSection.lines]
    generalize n.dhcpLines = dhcpLines
    simp [hn, given]
  rw [hl]
  refine Reads.quiet quiet_network (Reads.section (m := 2)
    (e := gatewayTree name subnet address wan start last wifi) ?_
    (by decide) (by decide) (List.cons_ne_nil _ _) ?_)
  · exact Reads.name (Reads.name (Reads.name (Reads.name (Reads.name (hd.append ha) (by decide)
      (isName_interface hw)) (by decide) (isName_address address)) (by decide)
      (isName_network subnet)) (by decide) (isName_interface hi)) (by decide) (by decide)
  · cases wifi
    all_goals simp [gatewayTree]

theorem isName_endpoint (e : Endpoint) : isName e.val = true := by
  have h := e.property
  rw [isEndpoint, Bool.or_eq_true, Bool.and_eq_true] at h
  rcases h with h | h
  · obtain ⟨a, ha⟩ := Option.isSome_iff_exists.mp h
    rw [parseAddress] at ha
    split at ha
    next x y z w hs =>
      have hd : ∀ p ∈ e.val.toList.splitOn '.', p ≠ [] ∧ ∀ c ∈ p, isDigit c = true := by
        intro p hp
        have hm : parseOctet (String.ofList p) ∈ (split '.' e.val).map parseOctet :=
          List.mem_map_of_mem (List.mem_map_of_mem hp)
        have ho : (parseOctet (String.ofList p)).isSome := by
          rw [hs] at hm
          simp only [List.mem_cons, List.not_mem_nil, or_false] at hm
          rcases hm with hm | hm | hm | hm
          all_goals rw [hm]; rfl
        simp only [parseOctet, String.toList_ofList] at ho
        split at ho
        next hc => exact ⟨hc.1, List.all_eq_true.mp hc.2.1⟩
        next => cases ho
      refine isName_iff.mpr ⟨fun hn => ?_, fun c hc => ?_⟩
      · exact (hd [] (by simp [hn])).1 rfl
      · rcases mem_splitOn_of_mem (x := '.') hc with rfl | ⟨p, hp, hcp⟩
        · decide
        · exact isDigit_name ((hd p hp).2 c hcp)
    next => cases ha
  · exact isName_hostname h.1

def wgServerTree (endpoint : String) : List (String × Written) :=
  [("endpoint", leaf endpoint), ("subnet", leaf defaultWgSubnet.val.str),
    ("listen_port", leaf (toString defaultWgPort.val))]

theorem reads_wgServer (endpoint : Endpoint) :
    Reads 0 ({ endpoint := endpoint } : WgServerConfig).lines
      [("wg_server", .map (wgServerTree endpoint.val))] := by
  have hq : tokens wgServerHelp = some [] := by
    repeat refine tokens_quiet (by decide) ?_
    rfl
  refine Reads.quiet hq (Reads.section (m := 2) (e := wgServerTree endpoint.val) ?_
    (by decide) (by decide) (List.cons_ne_nil _ _) (by simp [wgServerTree]))
  exact Reads.name (Reads.name (Reads.name .nil (by decide) (isName_number _)) (by decide)
    (isName_network _)) (by decide) (isName_endpoint endpoint)

def portNames (ports : List Port) : List String := ports.map fun p => toString p.val

def firewallTree (ports : List Port) : List (String × Written) :=
  [("enabled", leaf "true"), ("ssh_ports", flowLeaf (portNames ports)), ("allow_tcp", flowLeaf []),
    ("allow_udp", flowLeaf [])]

theorem reads_firewall {firewall : FirewallConfig} {ports : List Port}
    (he : firewall.enabled = true) (hs : firewall.sshPorts = ports) (ht : firewall.allowTcp = [])
    (hu : firewall.allowUdp = []) :
    Reads 0 firewall.lines [("firewall", .map (firewallTree ports))] := by
  have hq : tokens firewallHelp = some [] := by
    repeat refine tokens_quiet (by decide) ?_
    rfl
  have hp : FlowNames (portNames ports) := by
    have h := flowNames_numbers (ports.map Subtype.val)
    rwa [List.map_map] at h
  rw [FirewallConfig.lines, he, hs, ht, hu]
  refine Reads.quiet hq (Reads.section (m := 2) (e := firewallTree ports) ?_
    (by decide) (by decide) (List.cons_ne_nil _ _) (by simp [firewallTree]))
  refine Reads.name (Reads.cons (scan_entry (by decide) (line_flow hp) (scalar_flow hp)) ?_)
    (by decide) (by decide)
  have he : FlowNames [] := fun s hs => by simp at hs
  exact Reads.cons (scan_entry (by decide) (line_flow he) (scalar_flow he))
    (Reads.cons (scan_entry (by decide) (line_flow he) (scalar_flow he)) .nil)

end VibeDPN
