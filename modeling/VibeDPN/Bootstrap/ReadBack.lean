import VibeDPN.Bootstrap.Sections
import VibeDPN.ConfigEdit.Spelling

namespace VibeDPN

open Text Inet Yaml

variable {plain load : String → Option Yaml}

theorem value_leaf (s : String) : (leaf s).value plain = plain s := by
  rw [leaf, Written.value, Scalar.value, Word.value]

theorem value_bool (h : Yaml12 plain load) (b : Bool) : plain (tojsonBool b) = some (.bool b) := by
  cases b
  · exact h.no
  · exact h.yes

theorem value_numbers (h : Yaml12 plain load) (l : List Nat) :
    (flowLeaf (l.map fun n => toString n)).value plain = some (.seq (l.map .int)) := by
  have hm : ((l.map fun n => toString n).map Word.plain).mapM (Word.value plain) =
      some (l.map .int) := by
    induction l with
    | nil => rfl
    | cons n l ih =>
      simp only [List.map_cons, List.mapM_cons, ih]
      rw [Word.value, h.number]
      rfl
  rw [flowLeaf, Written.value, Scalar.value, hm]
  rfl

def routingYaml (key : String) : Yaml :=
  .map [("mode", .str "off"), ("default_upstream", .str key), ("failopen", .bool false),
    ("domains", .seq []), ("lists", .seq []), ("networks", .seq [])]

def upstreamsYaml (vps dpn : Bool) : Yaml :=
  .map [("vps", .map [("enabled", .bool vps), ("lan_access", .bool false)]),
    ("dpn", .map [("enabled", .bool dpn)]), ("tor", .map [("enabled", .bool false)])]

def providerYaml (enabled : Bool) : Yaml :=
  .map [("enabled", .bool enabled), ("udp_ports", .str "56000-56100"),
    ("traversal", .seq [.str "manual", .str "upnp", .str "holepunching"])]

def dnsYaml : Yaml :=
  .map [("enabled", .bool true), ("upstreams", .seq [.str "https://dns.cloudflare.com/dns-query"]),
    ("web_port", .int 3000)]

def uiYaml (variant : UiVariant) : Yaml :=
  .map [("enabled", .bool true), ("port", .int 80), ("host_name", .str "vibedpn.lan"),
    ("variant", .str variant.value), ("language", .str "ru")]

def apiYaml : Yaml := .map [("port", .int 4480)]

theorem value_routing (h : Yaml12 plain load) {key : String} (hk : isTyped key = false) :
    (Written.map (routingTree key)).value plain = some (routingYaml key) := by
  simp [routingTree, routingYaml, Written.value, members, value_leaf, flowLeaf, Scalar.value,
    h.word "off" (by decide), h.word key hk, h.no]

theorem value_upstreams (h : Yaml12 plain load) (vps dpn : Bool) :
    (Written.map (upstreamsTree vps dpn)).value plain = some (upstreamsYaml vps dpn) := by
  simp [upstreamsTree, upstreamsYaml, Written.value, members, value_leaf, value_bool h, h.no]

theorem value_provider (h : Yaml12 plain load) (enabled : Bool) :
    (Written.map (providerTree enabled)).value plain = some (providerYaml enabled) := by
  simp [providerTree, providerYaml, Written.value, members, value_leaf, value_bool h, Scalar.value,
    Word.value, flowLeaf, h.word "manual" (by decide), h.word "upnp" (by decide),
    h.word "holepunching" (by decide)]
  rfl

theorem value_dns (h : Yaml12 plain load) : (Written.map dnsTree).value plain = some dnsYaml := by
  have hp : plain "3000" = some (.int 3000) := h.number 3000
  simp [dnsTree, dnsYaml, Written.value, members, values, value_leaf, h.yes,
    h.word "https://dns.cloudflare.com/dns-query" (by decide), hp]

theorem value_ui (h : Yaml12 plain load) (variant : UiVariant) :
    (Written.map (uiTree variant)).value plain = some (uiYaml variant) := by
  have hv : isTyped variant.value = false := by
    cases variant
    all_goals decide
  have hp : plain "80" = some (.int 80) := h.number 80
  simp [uiTree, uiYaml, Written.value, members, value_leaf, h.yes, hp, h.word _ hv,
    h.word "vibedpn.lan" (by decide), h.word "ru" (by decide)]

theorem value_api (h : Yaml12 plain load) :
    (Written.map [("port", leaf "4480")]).value plain = some apiYaml := by
  have hp : plain "4480" = some (.int 4480) := h.number 4480
  simp [apiYaml, Written.value, members, value_leaf, hp]

theorem asUpstreams_yaml (vps dpn : Bool) : asUpstreams (upstreamsYaml vps dpn) =
    some { vps := { enabled := vps }, dpn := { enabled := dpn } } := by
  cases vps
  all_goals
    cases dpn
    all_goals decide

theorem asProvider_yaml (enabled : Bool) :
    asProvider (providerYaml enabled) = some { enabled := enabled } := by
  cases enabled
  all_goals decide

theorem asDns_yaml : asDns dnsYaml = some {} := by decide

theorem asUi_yaml (variant : UiVariant) : asUi (uiYaml variant) = some { variant := variant } := by
  cases variant
  all_goals decide

theorem asApi_yaml : asApi apiYaml = some {} := by decide

theorem asRouting_yaml (key : String) : asRouting (routingYaml key) =
    some { defaultUpstream := key, domains := some [], lists := some [], networks := some [] } := by
  rfl

def textYaml (s : String) : Yaml := if ∀ c ∈ s.toList, c.toNat < 0x10000 then .str s else .other

def wifiYaml (w : WifiConfig) : Yaml :=
  .map [("ssid", textYaml w.ssid.val), ("country", .str w.country.val),
    ("band", .str w.band.value), ("channel", .int w.channel), ("security", .str w.security.value)]

theorem isTyped_country (c : Country) : isTyped c.val = false := by
  have h := c.property
  simp only [isCountry, Bool.and_eq_true, decide_eq_true_eq, List.all_eq_true] at h
  obtain ⟨hl, hc⟩ := h
  obtain ⟨x, y, he⟩ := List.length_eq_two.mp hl
  rw [isTyped, he]
  exact isTyped_letters (hc x (by simp [he])) (hc y (by simp [he]))

theorem value_wifi (h : Yaml12 plain load) (w : WifiConfig) :
    (Written.map (wifiTree w)).value plain = some (wifiYaml w) := by
  have hb : unitsValue (readUnits w.band.value.toList) = .str w.band.value := by
    cases w.band
    all_goals rfl
  have hs : isTyped w.security.value = false := by
    cases w.security
    all_goals decide
  have hc : plain (toString w.channel) = some (.int w.channel) := h.number w.channel
  have ht := unitsValue_text w.ssid.val
  simp only [wifiTree, wifiYaml, Written.value, members, value_leaf, quotedLeaf, Scalar.value,
    Word.value, h.word _ (isTyped_country w.country), h.word _ hs, hc, hb, ht, Option.bind_some,
    Option.map_some]
  rfl

theorem section?_map {keys : List String} {es : List (String × Yaml)}
    (h : es.all (·.1 ∈ keys) = true) : section? keys (.map es) = some es := by
  rw [section?, asMap, Option.filter_some, if_pos h]

theorem required_eq {α : Type} {es : List (String × Yaml)} {key : String} {value : Yaml → Option α}
    {y : Yaml} (h : es.lookup key = some y) : required es key value = value y := by
  rw [required, h, Option.bind_some]

theorem defaulted_eq {α : Type} {es : List (String × Yaml)} {key : String} {default : α}
    {value : Yaml → Option α} {y : Yaml} (h : es.lookup key = some y) :
    defaulted es key default value = value y := by
  rw [defaulted, h]

theorem defaulted_absent {α : Type} {es : List (String × Yaml)} {key : String} {default : α}
    {value : Yaml → Option α} (h : es.lookup key = none) :
    defaulted es key default value = some default := by
  rw [defaulted, h]

theorem asWifi_yaml (w : WifiConfig) : asWifi (wifiYaml w) =
    (asChecked isSsid (textYaml w.ssid.val)).map fun ssid =>
      ⟨ssid, w.country, w.band, w.channel, w.security, w.channel_mem⟩ := by
  have hc : asCountry (.str w.country.val) = some w.country := by
    rw [asCountry, asText, Option.bind_some, normalizeCountry_val]
  have hb : asEnum [.band24, .band5] WifiBand.value (.str w.band.value) = some w.band := by
    cases w.band
    all_goals rfl
  have hs : asEnum [.wpa2Wpa3, .wpa3] WifiSecurity.value (.str w.security.value) =
      some w.security := by
    cases w.security
    all_goals rfl
  rw [asWifi, wifiYaml, section?_map (by simp)]
  simp -implicitDefEqProofs only [Option.bind_eq_bind, Option.bind_some]
  rw [required_eq rfl, required_eq rfl, hc, defaulted_eq rfl, hb, defaulted_eq rfl, defaulted_eq rfl,
    hs]
  cases asChecked isSsid (textYaml w.ssid.val) with
  | none => rfl
  | some ssid =>
    simp only [Option.bind_some, Option.map_some, asNumber]
    rw [dif_pos w.channel_mem]

theorem asWifi_eq_some {w : WifiConfig} (ht : trim w.ssid.val = w.ssid.val) :
    asWifi (wifiYaml w) = some w ↔ ∀ c ∈ w.ssid.val.toList, c.toNat < 0x10000 := by
  rw [asWifi_yaml, textYaml]
  split
  next h =>
    refine iff_of_true ?_ h
    have hssid : asChecked isSsid (.str w.ssid.val) = some w.ssid := by
      rw [asChecked, asText, Option.bind_some, ht, check_val]
    rw [hssid, Option.map_some]
  next h => exact iff_of_false (by simp [asChecked, asText]) h

def sidecarYaml (v : Yaml) (subnet : IPv4Network) (address : IPv4Address) : Yaml :=
  .map [("mode", .str "sidecar"), ("lan_interface", v), ("lan_subnet", .str subnet.str),
    ("lan_address", .str address.str)]

def dhcpYaml (start last : IPv4Address) : Yaml :=
  .map [("range_start", .str start.str), ("range_end", .str last.str), ("lease", .str "12h")]

def gatewayYaml (v w : Yaml) (subnet : IPv4Network) (address start last : IPv4Address)
    (wifi : Option WifiConfig) : Yaml :=
  .map ([("mode", .str "gateway"), ("lan_interface", v), ("lan_subnet", .str subnet.str),
    ("lan_address", .str address.str), ("wan_interface", w), ("dhcp", dhcpYaml start last)] ++
    wifi.toList.map fun w => ("wifi", wifiYaml w))

theorem value_sidecar (h : Yaml12 plain load) (name : String) (subnet : IPv4Network)
    (address : IPv4Address) :
    (Written.map (sidecarTree name subnet address)).value plain =
      (plain name).map fun v => sidecarYaml v subnet address := by
  cases hv : plain name with
  | none => simp [sidecarTree, Written.value, members, value_leaf, h.word "sidecar" (by decide), hv]
  | some v =>
    simp [sidecarTree, sidecarYaml, Written.value, members, value_leaf, h.word "sidecar" (by decide),
      hv, h.word _ (isTyped_network subnet), h.word _ (isTyped_address address)]

theorem value_dhcp (h : Yaml12 plain load) (start last : IPv4Address) :
    (Written.map (dhcpTree start last)).value plain = some (dhcpYaml start last) := by
  simp [dhcpTree, dhcpYaml, Written.value, members, value_leaf, h.word _ (isTyped_address start),
    h.word _ (isTyped_address last), h.word "12h" (by decide)]

theorem value_gateway (h : Yaml12 plain load) (name wan : String) (subnet : IPv4Network)
    (address start last : IPv4Address) (wifi : Option WifiConfig) :
    (Written.map (gatewayTree name subnet address wan start last wifi)).value plain =
      (plain name).bind fun v => (plain wan).map fun w =>
        gatewayYaml v w subnet address start last wifi := by
  have hd := value_dhcp h start last
  have hw : members plain (wifi.toList.map fun w => ("wifi", .map (wifiTree w))) =
      some (wifi.toList.map fun w => ("wifi", wifiYaml w)) := by
    cases wifi with
    | none => rfl
    | some w => simp [members, value_wifi h w]
  cases hv : plain name with
  | none => simp [gatewayTree, Written.value, members, value_leaf, h.word "gateway" (by decide), hv]
  | some v =>
    cases hx : plain wan with
    | none =>
      simp [gatewayTree, Written.value, members, value_leaf, h.word "gateway" (by decide), hv, hx,
        h.word _ (isTyped_network subnet), h.word _ (isTyped_address address)]
    | some x =>
      have hg : members plain [("mode", leaf "gateway"), ("lan_interface", leaf name),
          ("lan_subnet", leaf subnet.str), ("lan_address", leaf address.str),
          ("wan_interface", leaf wan), ("dhcp", .map (dhcpTree start last))] =
          some [("mode", .str "gateway"), ("lan_interface", v), ("lan_subnet", .str subnet.str),
            ("lan_address", .str address.str), ("wan_interface", x),
            ("dhcp", dhcpYaml start last)] := by
        simp [members, value_leaf, h.word "gateway" (by decide), hv, hx, hd,
          h.word _ (isTyped_network subnet), h.word _ (isTyped_address address)]
      rw [gatewayTree, Written.value, members_append hg hw]
      rfl

theorem asAddress_str (a : IPv4Address) : asAddress (.str a.str) = some a := by
  rw [asAddress, parseAddress_str]

theorem asNetwork_str (n : IPv4Network) : asNetwork (.str n.str) = some n := by
  rw [asNetwork, parseNetwork_str]

theorem asSidecar_yaml (v : Yaml) (subnet : IPv4Network) (address : IPv4Address) :
    asNetworkSection (sidecarYaml v subnet address) = (asInterface v).map fun lan =>
      { lanInterface := lan, lanSubnet := subnet, lanAddress := address } := by
  rw [asNetworkSection, sidecarYaml, section?_map (by simp)]
  simp -implicitDefEqProofs only [Option.bind_eq_bind, Option.bind_some]
  rw [defaulted_eq rfl, required_eq rfl, required_eq rfl, required_eq rfl, defaulted_absent rfl,
    defaulted_absent rfl, defaulted_absent rfl, asNetwork_str, asAddress_str]
  cases asInterface v with
  | none => rfl
  | some lan => rfl

theorem asDhcp_yaml (start last : IPv4Address) : asDhcp (dhcpYaml start last) =
    some { rangeStart := some start, rangeEnd := some last } := by
  have hl : asChecked isLease (.str "12h") = some defaultLease := by decide
  have hn : ∀ a : IPv4Address, asNullable asAddress (.str a.str) = some (some a) := fun a => by
    rw [asNullable, asAddress_str, Option.map_some]
    exact fun h => by cases h
  rw [asDhcp, dhcpYaml, section?_map (by simp)]
  simp -implicitDefEqProofs only [Option.bind_eq_bind, Option.bind_some]
  rw [defaulted_eq rfl, defaulted_eq rfl, defaulted_eq rfl, hn, hn, hl]
  rfl

theorem asGateway_yaml (v w : Yaml) (subnet : IPv4Network) (address start last : IPv4Address)
    (wifi : Option WifiConfig) :
    asNetworkSection (gatewayYaml v w subnet address start last wifi) =
      (asInterface v).bind fun lan => (asNullable asInterface w).bind fun wan =>
        (optional (fun x => asWifi (wifiYaml x)) wifi).map fun ap =>
          { mode := .gateway, lanInterface := lan, lanSubnet := subnet, lanAddress := address,
            wanInterface := wan, dhcp := some { rangeStart := some start, rangeEnd := some last },
            wifi := ap } := by
  have hd : asNullable asDhcp (dhcpYaml start last) =
      some (some { rangeStart := some start, rangeEnd := some last }) := by
    rw [asNullable, asDhcp_yaml, Option.map_some]
    exact fun h => by cases h
  have hm : asEnum [.sidecar, .gateway] NetworkMode.value (.str "gateway") =
      some NetworkMode.gateway := rfl
  cases wifi with
  | none =>
    rw [asNetworkSection, gatewayYaml, section?_map (by simp)]
    simp -implicitDefEqProofs only [Option.bind_eq_bind, Option.bind_some]
    rw [defaulted_eq rfl, required_eq rfl, required_eq rfl, required_eq rfl, defaulted_eq rfl,
      defaulted_eq rfl, defaulted_absent rfl, asNetwork_str, asAddress_str, hd, hm]
    rfl
  | some x =>
    have hw : asNullable asWifi (wifiYaml x) = (asWifi (wifiYaml x)).map some := by
      rw [asNullable]
      exact fun h => by cases h
    rw [asNetworkSection, gatewayYaml, section?_map (by simp)]
    simp -implicitDefEqProofs only [Option.bind_eq_bind, Option.bind_some]
    rw [defaulted_eq rfl, required_eq rfl, required_eq rfl, required_eq rfl, defaulted_eq rfl,
      defaulted_eq rfl, defaulted_eq rfl, asNetwork_str, asAddress_str, hd, hm, hw, optional]
    cases asInterface v with
    | none => rfl
    | some lan =>
      cases asNullable asInterface w with
      | none => rfl
      | some wan =>
        cases asWifi (wifiYaml x) with
        | none => rfl
        | some ap => rfl

theorem asNetworkConfig_eq_some {y : Yaml} {n : NetworkConfig} :
    asNetworkConfig y = some n ↔ asNetworkSection y = some n.toNetworkSection := by
  rw [asNetworkConfig, Option.bind_eq_some_iff]
  constructor
  · rintro ⟨m, hm, hv⟩
    rw [hm, validate_section hv]
  · intro h
    exact ⟨_, h, by rw [NetworkSection.validate, dif_pos n.valid]⟩

theorem trim_name {s : String} (h : isName s = true) : trim s = s :=
  trim_eq_self fun c hc => by
    have hg := isNameChar_graphic ((isName_iff.mp h).2 c hc)
    exact isSpace_graphic hg.1 hg.2

theorem asText_none {v : Yaml} (h : ∀ t, v ≠ .str t) : asText v = none := by
  cases v with
  | str t => exact absurd rfl (h t)
  | null => rfl
  | bool b => rfl
  | int n => rfl
  | other => rfl
  | seq items => rfl
  | map entries => rfl

theorem text_back (h : Yaml12 plain load) {α : Type} {f : Yaml → Option α} {s : String} {a : α}
    (hf : ∀ v, (∀ t, v ≠ .str t) → f v = none) (hs : f (.str s) = some a) :
    (plain s).bind f = some a ↔ isTyped s = false := by
  constructor
  · intro hb
    obtain ⟨v, hv, hi⟩ := Option.bind_eq_some_iff.mp hb
    by_contra ht
    rw [hf v fun t he => h.typed s t (by simpa using ht) (he ▸ hv)] at hi
    cases hi
  · intro ht
    rw [h.word s ht, Option.bind_some, hs]

theorem asInterface_back (h : Yaml12 plain load) {s : String} (hs : isName s = true) :
    (plain s).bind asInterface = some s ↔ isTyped s = false := by
  refine text_back h (fun v hv => ?_) ?_
  · rw [asInterface, asText_none hv, Option.map_none]
  · rw [asInterface, asText, Option.map_some, trim_name hs]

theorem asNullable_interface {v : Yaml} {s : String} :
    asNullable asInterface v = some (some s) ↔ asInterface v = some s := by
  cases v with
  | null => simp [asNullable, asInterface, asText]
  | str t => simp [asNullable, asInterface, asText]
  | bool b => simp [asNullable, asInterface, asText]
  | int n => simp [asNullable, asInterface, asText]
  | other => simp [asNullable, asInterface, asText]
  | seq items => simp [asNullable, asInterface, asText]
  | map entries => simp [asNullable, asInterface, asText]

theorem sidecar_back (h : Yaml12 plain load) {n : NetworkConfig} {name : String}
    {subnet : IPv4Network} {address : IPv4Address}
    (hn : n.toNetworkSection = { lanInterface := name, lanSubnet := subnet, lanAddress := address })
    (hi : isName name = true) :
    ((Written.map (sidecarTree name subnet address)).value plain).bind asNetworkConfig = some n ↔
      isTyped name = false := by
  rw [← asInterface_back h hi, value_sidecar h]
  cases plain name with
  | none => simp
  | some v =>
    rw [Option.map_some, Option.bind_some, Option.bind_some, asNetworkConfig_eq_some,
      asSidecar_yaml, hn, Option.map_eq_some_iff]
    constructor
    · rintro ⟨lan, hv, he⟩
      rw [hv, (NetworkSection.mk.inj he).2.1]
    · intro hv
      exact ⟨name, hv, rfl⟩

theorem gateway_back (h : Yaml12 plain load) {n : NetworkConfig} {name wan : String}
    {subnet : IPv4Network} {address start last : IPv4Address} {wifi : Option WifiConfig}
    (hn : n.toNetworkSection =
      { mode := .gateway, lanInterface := name, lanSubnet := subnet, lanAddress := address,
        wanInterface := some wan, dhcp := some { rangeStart := some start, rangeEnd := some last },
        wifi := wifi })
    (hi : isName name = true) (hw : isName wan = true)
    (ht : ∀ w ∈ wifi, trim w.ssid.val = w.ssid.val) :
    ((Written.map (gatewayTree name subnet address wan start last wifi)).value plain).bind
        asNetworkConfig = some n ↔
      isTyped name = false ∧ isTyped wan = false ∧
        ∀ w ∈ wifi, ∀ c ∈ w.ssid.val.toList, c.toNat < 0x10000 := by
  have hap : optional (fun x => asWifi (wifiYaml x)) wifi = some wifi ↔
      ∀ w ∈ wifi, ∀ c ∈ w.ssid.val.toList, c.toNat < 0x10000 := by
    cases wifi with
    | none => simp [optional]
    | some w => simpa [optional] using asWifi_eq_some (ht w rfl)
  rw [← hap, ← asInterface_back h hi, ← asInterface_back h hw, value_gateway h]
  cases plain name with
  | none => simp
  | some v =>
    cases plain wan with
    | none => simp
    | some x =>
      rw [Option.bind_some, Option.map_some, Option.bind_some, Option.bind_some, Option.bind_some,
        asNetworkConfig_eq_some, asGateway_yaml, hn, ← asNullable_interface (v := x)]
      simp only [Option.bind_eq_some_iff, Option.map_eq_some_iff]
      constructor
      · rintro ⟨lan, hv, wan', hx, ap, hap', he⟩
        obtain ⟨-, rfl, -, -, rfl, -, rfl⟩ := NetworkSection.mk.inj he
        exact ⟨hv, hx, hap'⟩
      · rintro ⟨hv, hx, hap'⟩
        exact ⟨name, hv, some wan, hx, wifi, hap', rfl⟩

end VibeDPN
