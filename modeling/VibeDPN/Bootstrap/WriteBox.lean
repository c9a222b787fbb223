import VibeDPN.Bootstrap.ReadBack

namespace VibeDPN

open Text Inet Yaml

-- yaml and validation: what the reader and the model raise
inductive BoxError where
  | yaml
  | validation
  | bootstrap (reason : String)
deriving DecidableEq

def readBack (load : String → Option Yaml) (config : Config) : Option Config :=
  (load config.renderConfig).bind modelValidate

def checkRendered (load : String → Option Yaml) (config : Config) : Except BoxError Unit :=
  match load config.renderConfig with
  | none => .error .yaml
  | some data =>
    match modelValidate data with
    | none => .error .validation
    | some read =>
      if read ≠ config then
        .error (.bootstrap "rendered config.yaml does not round-trip; this is a template bug")
      else .ok ()

theorem checkRendered_eq_ok {load : String → Option Yaml} {config : Config} :
    checkRendered load config = .ok () ↔ readBack load config = some config := by
  rw [checkRendered, readBack]
  cases load config.renderConfig with
  | none => simp
  | some data =>
    cases h : modelValidate data with
    | none => simp [h]
    | some read => simp [h]

variable {plain load : String → Option Yaml}

theorem members_hole {a b : List (String × Written)} {t : Written} {key : String}
    {ys zs : List (String × Yaml)} (ha : members plain a = some ys) (hb : members plain b = some zs) :
    members plain (a ++ (key, t) :: b) = (t.value plain).map fun y => ys ++ (key, y) :: zs := by
  cases ht : t.value plain with
  | none =>
    induction a generalizing ys with
    | nil => simp [members, ht]
    | cons e a ih =>
      obtain ⟨k, u⟩ := e
      simp only [members, Option.bind_eq_some_iff, Option.map_eq_some_iff] at ha
      obtain ⟨v, hv, rest, hrest, rfl⟩ := ha
      simp [members, hv, ih hrest]
  | some y =>
    exact members_append ha (by simp [members, ht, hb])

def lanFields (role : Role) (key : UplinkKey) (vps dpn provider : Bool) (network : NetworkConfig)
    (variant : UiVariant) : Fields :=
  { role := role, network := some network, ui := { variant := variant },
    routing := some { defaultUpstream := key },
    upstreams := { vps := { enabled := vps }, dpn := { enabled := dpn } },
    provider := { enabled := provider } }

def lanTree (role : Role) (key : String) (vps dpn provider : Bool) (variant : UiVariant)
    (network : Written) : List (String × Written) :=
  [("version", leaf "1"), ("role", leaf role.value)] ++ ("network", network) ::
    [("routing", .map (routingTree key)), ("devices", flowLeaf []),
      ("upstreams", .map (upstreamsTree vps dpn)), ("provider", .map (providerTree provider)),
      ("dns", .map dnsTree), ("ui", .map (uiTree variant)), ("api", .map [("port", leaf "4480")])]

theorem reads_lan {role : Role} {key : UplinkKey} {vps dpn provider : Bool}
    {network : NetworkConfig} {variant : UiVariant} {net : Written} (hr : role ≠ .vps)
    (hk : isName key.val = true) (hn : Reads 0 network.lines [("network", net)]) :
    Reads 0 (lanFields role key vps dpn provider network variant).renderLines
      (lanTree role key.val vps dpn provider variant net) := by
  have hl : (lanFields role key vps dpn provider network variant).renderLines =
      headLines role ++ (network.lines ++ (({ defaultUpstream := key } : RoutingConfig).lines ++
        (devicesLines [] ++
        (({ vps := { enabled := vps }, dpn := { enabled := dpn } } : UpstreamsConfig).lines ++
        (({ enabled := provider } : ProviderConfig).lines ++ (({} : DnsConfig).lines ++
        (({ variant := variant } : UiConfig).lines ++ ({} : ApiConfig).lines))))))) := by
    simp [Fields.renderLines, lanFields, hr, given]
  rw [hl]
  exact (reads_head role).append (hn.append ((reads_routing key hk).append (reads_devices.append
    ((reads_upstreams vps dpn).append ((reads_provider provider).append (reads_dns.append
      ((reads_ui variant).append reads_api)))))))

def lanYaml (role : Role) (key : String) (vps dpn provider : Bool) (variant : UiVariant)
    (network : Yaml) : Yaml :=
  .map [("version", .int 1), ("role", .str role.value), ("network", network),
    ("routing", routingYaml key), ("devices", .seq []), ("upstreams", upstreamsYaml vps dpn),
    ("provider", providerYaml provider), ("dns", dnsYaml), ("ui", uiYaml variant),
    ("api", apiYaml)]

theorem isTyped_role (role : Role) : isTyped role.value = false := by
  cases role
  all_goals decide

theorem value_head (h : Yaml12 plain load) (role : Role) :
    members plain [("version", leaf "1"), ("role", leaf role.value)] =
      some [("version", .int 1), ("role", .str role.value)] := by
  have hv : plain "1" = some (.int 1) := h.number 1
  simp [members, value_leaf, hv, h.word _ (isTyped_role role)]

theorem value_lan (h : Yaml12 plain load) {role : Role} {key : String} {vps dpn provider : Bool}
    {variant : UiVariant} {net : Written} (hk : isTyped key = false) :
    (Written.map (lanTree role key vps dpn provider variant net)).value plain =
      (net.value plain).map (lanYaml role key vps dpn provider variant) := by
  have hb : members plain [("routing", .map (routingTree key)), ("devices", flowLeaf []),
      ("upstreams", .map (upstreamsTree vps dpn)), ("provider", .map (providerTree provider)),
      ("dns", .map dnsTree), ("ui", .map (uiTree variant)),
      ("api", .map [("port", leaf "4480")])] =
      some [("routing", routingYaml key), ("devices", .seq []),
        ("upstreams", upstreamsYaml vps dpn), ("provider", providerYaml provider),
        ("dns", dnsYaml), ("ui", uiYaml variant), ("api", apiYaml)] := by
    have hd : (flowLeaf []).value plain = some (.seq []) := by
      simp [flowLeaf, Written.value, Scalar.value]
    simp only [members, value_routing h hk, hd, value_upstreams h, value_provider h, value_dns h,
      value_ui h, value_api h, Option.bind_some, Option.map_some]
  rw [lanTree, Written.value, members_hole (value_head h role) hb, Option.map_map]
  rfl

def lanDocument (role : Role) (key : String) (vps dpn provider : Bool) (variant : UiVariant)
    (network : NetworkConfig) : Document :=
  { role := role, network := some network,
    routing := some { defaultUpstream := key, domains := some [], lists := some [],
                      networks := some [] },
    devices := some [], upstreams := some { vps := { enabled := vps }, dpn := { enabled := dpn } },
    provider := some { enabled := provider }, dns := some {}, ui := some { variant := variant },
    api := some {} }

theorem asDocument_lan {role : Role} {key : String} {vps dpn provider : Bool} {variant : UiVariant}
    {m : List (String × Yaml)} (hr : role ≠ .vps) :
    asDocument (lanYaml role key vps dpn provider variant (.map m)) =
      (asNetworkConfig (.map m)).map (lanDocument role key vps dpn provider variant) := by
  have hrole : asRole (.str role.value) = some role := by
    cases role
    all_goals rfl
  have hnull : ∀ {α : Type} (f : Yaml → Option α) (es : List (String × Yaml)),
      asNullable f (.map es) = (f (.map es)).map some := fun f es => by
    rw [asNullable]
    exact fun h => by cases h
  have hrouting : asNullable asRouting (routingYaml key) =
      (asRouting (routingYaml key)).map some := by
    rw [routingYaml, hnull]
  rw [asDocument, lanYaml, section?_map (by simp [configKeys])]
  simp -implicitDefEqProofs only [Option.bind_eq_bind, Option.bind_some, present]
  rw [required_eq rfl, required_eq rfl, defaulted_eq rfl, defaulted_eq rfl, defaulted_eq rfl,
    defaulted_eq rfl, defaulted_eq rfl, defaulted_absent rfl, defaulted_eq rfl, defaulted_eq rfl,
    defaulted_eq rfl, defaulted_absent rfl, hrole, hnull, hrouting, asRouting_yaml,
    asUpstreams_yaml, asProvider_yaml, asDns_yaml, asUi_yaml, asApi_yaml]
  have hversion : asVersion (.int 1) = some () := rfl
  have hdevices : asList asDevice (.seq []) = some [] := rfl
  rw [hversion, hdevices]
  cases asNetworkConfig (.map m) with
  | none => rfl
  | some network =>
    simp -implicitDefEqProofs only [Option.bind_some, Option.map_some]
    have hj : ∀ es : List (String × Yaml), es.lookup "firewall" = none →
        rejectLanSectionsOnVps role es = false := by
      intro es he
      simp [rejectLanSectionsOnVps, hr, vpsSectionKeys, he]
    rw [hj _ rfl]
    rfl

theorem validate_lan {role : Role} {key : UplinkKey} {vps dpn provider : Bool}
    {variant : UiVariant} {network : NetworkConfig} (hr : role ≠ .vps)
    (hk : isName key.val = true) :
    (lanDocument role key.val vps dpn provider variant network).validate =
      (lanFields role key vps dpn provider network variant).validate := by
  have hrouting : ({ defaultUpstream := key.val, domains := some [], lists := some [],
                     networks := some [] } : RoutingNode).validate =
      some { defaultUpstream := key } := by
    simp [RoutingNode.validate, RoutingNode.migrateSmartDomains, trim_name hk, check_val]
  have hupstreams : ({ vps := { enabled := vps }, dpn := { enabled := dpn } } :
      UpstreamsNode).validate = some { vps := { enabled := vps }, dpn := { enabled := dpn } } := by
    rfl
  have hm : (lanDocument role key.val vps dpn provider variant network).misplaced = false := by
    simp [Document.misplaced, lanDocument, hr]
  have hf : (lanDocument role key.val vps dpn provider variant network).fields =
      some (lanFields role key vps dpn provider network variant) := by
    simp only [Document.fields, lanDocument, optional, Option.getD_some, Option.getD_none,
      List.mapM_nil, hrouting, hupstreams, Option.map_some, Option.bind_some]
    rfl
  rw [Document.validate, hm, hf]
  simp

theorem readBack_lan (h : Yaml12 plain load) {role : Role} {key : UplinkKey}
    {vps dpn provider : Bool} {network : NetworkConfig} {variant : UiVariant}
    {net : List (String × Written)} {c : Config} (hr : role ≠ .vps) (hk : isName key.val = true)
    (hkt : isTyped key.val = false)
    (hc : c.toFields = lanFields role key vps dpn provider network variant)
    (hn : Reads 0 network.lines [("network", .map net)]) :
    readBack load c = some c ↔
      ((Written.map net).value plain).bind asNetworkConfig = some network := by
  have hdoc : document (lanFields role key vps dpn provider network variant).renderLines =
      some (.map (lanTree role key.val vps dpn provider variant (.map net))) :=
    (reads_lan hr hk hn).document (by simp [lanTree]) (by simp [lanTree])
  have hload : load c.renderConfig = ((Written.map net).value plain).map
      (lanYaml role key.val vps dpn provider variant) := by
    rw [Fields.renderConfig, hc, h.reads _ _ hdoc, value_lan h hkt]
  rw [readBack, hload, Written.value]
  cases members plain net with
  | none => simp
  | some m =>
    rw [Option.map_some, Option.map_some, Option.bind_some, Option.bind_some, modelValidate,
      asDocument_lan hr]
    cases asNetworkConfig (.map m) with
    | none => simp
    | some other =>
      rw [Option.map_some, Option.bind_some, validate_lan hr hk, Fields.validate_eq_some, hc]
      constructor
      · intro he
        have hnet := congrArg Fields.network he
        simpa [lanFields] using hnet
      · intro he
        rw [Option.some.inj he]

def vpsTree (endpoint : String) (ports : List Port) : List (String × Written) :=
  [("version", leaf "1"), ("role", leaf "vps"), ("provider", .map (providerTree true))] ++
    ("wg_server", .map (wgServerTree endpoint)) ::
    [("firewall", .map (firewallTree ports)), ("api", .map [("port", leaf "4480")])]

theorem firewallFor_ports {ports : List Int} {firewall : FirewallConfig}
    (h : firewallFor ports = .ok firewall) :
    firewall.enabled = true ∧ firewall.allowTcp = [] ∧ firewall.allowUdp = [] := by
  simp only [firewallFor] at h
  split at h
  · cases h
  · split at h
    · split at h
      · cases h
        exact ⟨rfl, rfl, rfl⟩
      · cases h
    · cases h

theorem reads_vps {endpoint : Endpoint} {firewall : FirewallConfig}
    (hf : firewall.enabled = true ∧ firewall.allowTcp = [] ∧ firewall.allowUdp = []) :
    Reads 0 (vpsFields endpoint firewall).renderLines (vpsTree endpoint.val firewall.sshPorts) := by
  have hl : (vpsFields endpoint firewall).renderLines =
      headLines .vps ++ (({ enabled := true } : ProviderConfig).lines ++
        (({ endpoint := endpoint } : WgServerConfig).lines ++
        (firewall.lines ++ ({} : ApiConfig).lines))) := by
    simp [Fields.renderLines, vpsFields, given]
  rw [hl]
  exact (reads_head .vps).append ((reads_provider true).append ((reads_wgServer endpoint).append
    ((reads_firewall hf.1 rfl hf.2.1 hf.2.2).append reads_api)))

def wgServerYaml (v : Yaml) : Yaml :=
  .map [("endpoint", v), ("subnet", .str defaultWgSubnet.val.str), ("listen_port", .int 51820)]

def firewallYaml (ports : List Port) : Yaml :=
  .map [("enabled", .bool true), ("ssh_ports", .seq (ports.map fun p => .int p.val)),
    ("allow_tcp", .seq []), ("allow_udp", .seq [])]

def vpsYaml (v : Yaml) (ports : List Port) : Yaml :=
  .map [("version", .int 1), ("role", .str "vps"), ("provider", providerYaml true),
    ("wg_server", wgServerYaml v), ("firewall", firewallYaml ports), ("api", apiYaml)]

theorem value_wgServer (h : Yaml12 plain load) (endpoint : String) :
    (Written.map (wgServerTree endpoint)).value plain = (plain endpoint).map wgServerYaml := by
  have hp : plain (toString defaultWgPort.val) = some (.int 51820) := h.number 51820
  cases hv : plain endpoint with
  | none => simp [wgServerTree, Written.value, members, value_leaf, hv]
  | some v =>
    simp only [wgServerTree, wgServerYaml, Written.value, members, value_leaf, hv, hp,
      h.word _ (isTyped_network _), Option.bind_some, Option.map_some]

theorem value_firewall (h : Yaml12 plain load) (ports : List Port) :
    (Written.map (firewallTree ports)).value plain = some (firewallYaml ports) := by
  have hp := value_numbers h (ports.map Subtype.val)
  rw [List.map_map, List.map_map] at hp
  have hp' : (flowLeaf (portNames ports)).value plain =
      some (.seq (ports.map fun p => .int p.val)) := hp
  have hd : (flowLeaf []).value plain = some (.seq []) := value_numbers h []
  simp only [firewallTree, firewallYaml, Written.value, members, value_leaf, hp', hd, h.yes,
    Option.bind_some, Option.map_some]

theorem value_vps (h : Yaml12 plain load) (endpoint : String) (ports : List Port) :
    (Written.map (vpsTree endpoint ports)).value plain =
      (plain endpoint).map fun v => vpsYaml v ports := by
  have ha : members plain [("version", leaf "1"), ("role", leaf "vps"),
      ("provider", .map (providerTree true))] =
      some [("version", .int 1), ("role", .str "vps"), ("provider", providerYaml true)] :=
    members_append (value_head h .vps) (by simp [members, value_provider h])
  have hb : members plain [("firewall", .map (firewallTree ports)),
      ("api", .map [("port", leaf "4480")])] =
      some [("firewall", firewallYaml ports), ("api", apiYaml)] := by
    simp only [members, value_firewall h, value_api h, Option.bind_some, Option.map_some]
  rw [vpsTree, Written.value, members_hole ha hb, value_wgServer h, Option.map_map, Option.map_map]
  rfl

theorem asWgServer_yaml (v : Yaml) : asWgServer (wgServerYaml v) =
    (asChecked isEndpoint v).map fun endpoint => { endpoint := endpoint } := by
  have hs : asSubnet (.str defaultWgSubnet.val.str) = some defaultWgSubnet := by
    rw [asSubnet, asNetwork_str, Option.bind_some, dif_pos defaultWgSubnet.property]
  have hp : asPort (.int 51820) = some defaultWgPort := by rfl
  rw [asWgServer, wgServerYaml, section?_map (by simp)]
  simp -implicitDefEqProofs only [Option.bind_eq_bind, Option.bind_some]
  rw [required_eq rfl, defaulted_eq rfl, defaulted_eq rfl, hs, hp]
  cases asChecked isEndpoint v with
  | none => rfl
  | some endpoint => rfl

theorem asPorts_yaml (ports : List Port) :
    asList asPort (.seq (ports.map fun p => .int p.val)) = some ports := by
  rw [asList]
  induction ports with
  | nil => rfl
  | cons p ports ih =>
    have hp : asPort (.int p.val) = some p := by
      rw [asPort, asNumber, Option.bind_some, toPort, dif_pos (by simpa using p.property)]
      rfl
    rw [List.map_cons, List.mapM_cons, hp, ih]
    rfl

theorem asFirewall_yaml {firewall : FirewallConfig}
    (hf : firewall.enabled = true ∧ firewall.allowTcp = [] ∧ firewall.allowUdp = []) :
    asFirewall (firewallYaml firewall.sshPorts) = some firewall := by
  have he : asList asPort (.seq []) = some [] := rfl
  obtain ⟨enabled, ssh, tcp, udp, hs, ht, hu⟩ := firewall
  obtain ⟨rfl, rfl, rfl⟩ := hf
  rw [asFirewall, firewallYaml, section?_map (by simp)]
  simp -implicitDefEqProofs only [Option.bind_eq_bind, Option.bind_some]
  rw [defaulted_eq rfl, defaulted_eq rfl, defaulted_eq rfl, defaulted_eq rfl, asPorts_yaml, he]
  simp -implicitDefEqProofs only [asBool, Option.bind_some]
  rw [dif_pos ⟨hs, ht, hu⟩]

theorem asDocument_vps {v : Yaml} {firewall : FirewallConfig}
    (hf : firewall.enabled = true ∧ firewall.allowTcp = [] ∧ firewall.allowUdp = []) :
    asDocument (vpsYaml v firewall.sshPorts) = (asChecked isEndpoint v).map fun endpoint =>
      { role := .vps, provider := some { enabled := true },
        wgServer := some { endpoint := endpoint }, api := some {}, firewall := some firewall } := by
  have hrole : asRole (.str "vps") = some .vps := rfl
  have hversion : asVersion (.int 1) = some () := rfl
  have hserver : asNullable asWgServer (wgServerYaml v) = (asWgServer (wgServerYaml v)).map some := by
    rw [wgServerYaml, asNullable]
    exact fun h => by cases h
  rw [asDocument, vpsYaml, section?_map (by simp [configKeys])]
  simp -implicitDefEqProofs only [Option.bind_eq_bind, Option.bind_some, present]
  rw [required_eq rfl, required_eq rfl, defaulted_absent rfl, defaulted_absent rfl,
    defaulted_absent rfl, defaulted_absent rfl, defaulted_eq rfl, defaulted_eq rfl,
    defaulted_absent rfl, defaulted_absent rfl, defaulted_eq rfl, defaulted_eq rfl, hrole, hversion,
    hserver, asWgServer_yaml, asProvider_yaml, asApi_yaml, asFirewall_yaml hf]
  cases asChecked isEndpoint v with
  | none => rfl
  | some endpoint => rfl

theorem validate_vps {endpoint : Endpoint} {firewall : FirewallConfig} :
    ({ role := .vps, provider := some { enabled := true },
       wgServer := some { endpoint := endpoint }, api := some {},
       firewall := some firewall } : Document).validate = (vpsFields endpoint firewall).validate := by
  have hupstreams : ({} : UpstreamsNode).validate = some {} := rfl
  rw [Document.validate, if_neg (by simp [Document.misplaced, Document.lanSections])]
  simp only [Document.fields, optional, Option.getD_some, Option.getD_none, List.mapM_nil,
    hupstreams]
  rfl

theorem asEndpoint_back {plain load : String → Option Yaml} (h : Yaml12 plain load)
    (endpoint : Endpoint) :
    (plain endpoint.val).bind (asChecked isEndpoint) = some endpoint ↔
      isTyped endpoint.val = false := by
  refine text_back h (fun v hv => ?_) ?_
  · rw [asChecked, asText_none hv, Option.bind_none]
  · rw [asChecked, asText, Option.bind_some, trim_name (isName_endpoint endpoint), check_val]

theorem readBack_vps (h : Yaml12 plain load) {endpoint : Endpoint} {firewall : FirewallConfig}
    {c : Config} (hf : firewall.enabled = true ∧ firewall.allowTcp = [] ∧ firewall.allowUdp = [])
    (hc : c.toFields = vpsFields endpoint firewall) :
    readBack load c = some c ↔ isTyped endpoint.val = false := by
  have hdoc : document (vpsFields endpoint firewall).renderLines =
      some (.map (vpsTree endpoint.val firewall.sshPorts)) :=
    (reads_vps hf).document (by simp [vpsTree]) (by simp [vpsTree])
  rw [readBack, Fields.renderConfig, hc, h.reads _ _ hdoc, value_vps h, ← asEndpoint_back h]
  cases plain endpoint.val with
  | none => simp
  | some v =>
    rw [Option.map_some, Option.bind_some, Option.bind_some, modelValidate, asDocument_vps hf]
    cases asChecked isEndpoint v with
    | none => simp
    | some other =>
      rw [Option.map_some, Option.bind_some, validate_vps, Fields.validate_eq_some, hc]
      constructor
      · intro he
        have hserver := congrArg Fields.wgServer he
        simpa [vpsFields] using hserver
      · intro he
        rw [Option.some.inj he]

def plainNames (answers : Answers) (facts : HostFacts) : List String :=
  if answers.role = .vps then (answers.endpoint.filter (· ≠ "")).toList
  else facts.interface.toList.map (trim ·.name) ++ answers.lanInterface.toList.map trim

def quotedNames (answers : Answers) : List String :=
  if answers.role = .vps then [] else answers.wifi.toList.map (·.ssid.val)

def Readable (answers : Answers) (facts : HostFacts) : Prop :=
  (∀ s ∈ plainNames answers facts, isTyped s = false) ∧
    ∀ s ∈ quotedNames answers, ∀ c ∈ s.toList, c.toNat < 0x10000

theorem buildVps_shape {answers : Answers} {facts : HostFacts} {c : Config}
    (h : buildVps answers facts = .ok c) :
    ∃ (endpoint : Endpoint) (firewall : FirewallConfig),
      (answers.endpoint.filter (· ≠ "")).or (publicAddress facts) = some endpoint.val ∧
      firewallFor facts.sshPorts = .ok firewall ∧ c.toFields = vpsFields endpoint firewall := by
  rw [buildVps] at h
  generalize (answers.endpoint.filter (· ≠ "")).or (publicAddress facts) = chosen at h ⊢
  cases chosen with
  | none => cases h
  | some s =>
    simp only at h
    cases hs : checkEndpoint s with
    | error reason => simp [hs] at h
    | ok endpoint =>
      cases hf : firewallFor facts.sshPorts with
      | error e => simp [hs, hf, bind, Except.bind] at h
      | ok firewall =>
        simp only [hs, hf, bind, Except.bind] at h
        have hval : s = endpoint.val := by
          rw [checkEndpoint] at hs
          cases hk : check isEndpoint s with
          | none => simp [hk] at hs
          | some other =>
            simp only [hk, Except.ok.injEq] at hs
            rw [check_eq_some.mp hk, hs]
        exact ⟨endpoint, firewall, by rw [hval], rfl, validated_eq_ok h⟩

theorem vps_readable {answers : Answers} {facts : HostFacts} {endpoint : Endpoint}
    (hr : answers.role = .vps)
    (he : (answers.endpoint.filter (· ≠ "")).or (publicAddress facts) = some endpoint.val) :
    Readable answers facts ↔ isTyped endpoint.val = false := by
  simp only [Readable, plainNames, quotedNames, if_pos hr, List.not_mem_nil, false_implies,
    implies_true, and_true, Option.mem_toList]
  cases hf : answers.endpoint.filter (· ≠ "") with
  | some s =>
    rw [hf, Option.some_or, Option.some.injEq] at he
    simp [he]
  | none =>
    rw [hf, Option.none_or] at he
    refine iff_of_true (by simp) ?_
    rw [publicAddress] at he
    split at he
    next i _ =>
      split at he
      · rw [← Option.some.inj he]
        exact isTyped_address i.address
      · cases he
    next => cases he

theorem buildConfig_shape {answers : Answers} {facts : HostFacts} {c : Config}
    (h : buildConfig answers facts = .ok c) (hr : answers.role ≠ .vps) :
    ∃ default network, facts.interface = some default ∧
      networkFor answers.lanInterface facts.interfaces default answers.wifi none = .ok network ∧
      (c.toFields = homeFields network (uiVariantFor answers facts) ∨
        c.toFields = clientFields network (uiVariantFor answers facts)) := by
  rw [buildConfig] at h
  cases hi : facts.interface with
  | none =>
    cases hrole : answers.role with
    | vps => exact absurd hrole hr
    | home => simp [hrole, hi] at h
    | client => simp [hrole, hi] at h
  | some default =>
    cases hn : networkFor answers.lanInterface facts.interfaces default answers.wifi none with
    | error e =>
      cases hrole : answers.role with
      | vps => exact absurd hrole hr
      | home => simp [hrole, hi, hn, bind, Except.bind] at h
      | client => simp [hrole, hi, hn, bind, Except.bind] at h
    | ok network =>
      refine ⟨default, network, rfl, hn, ?_⟩
      cases hrole : answers.role with
      | vps => exact absurd hrole hr
      | home =>
        simp only [hrole, hi, hn, bind, Except.bind] at h
        exact .inl (validated_eq_ok h)
      | client =>
        simp only [hrole, hi, hn, bind, Except.bind] at h
        exact .inr (validated_eq_ok h)

theorem section_interfaces (n : NetworkConfig) : isInterface n.lanInterface = true ∧
    ∀ wan ∈ n.wanInterface, isInterface wan = true := by
  have h := n.valid
  simp only [NetworkSection.errors, List.append_eq_nil_iff, NetworkSection.patternErrors,
    List.filterMap_eq_nil_iff] at h
  have hp : ∀ name ∈ n.lanInterface :: n.wanInterface.toList, isInterface name = true := by
    intro name hm
    have hn := h.1.1.1.1 name hm
    by_contra hne
    simp [hne] at hn
  exact ⟨hp _ List.mem_cons_self, fun wan hw => hp wan (List.mem_cons_of_mem _ (by simpa using hw))⟩

theorem network_back (h : Yaml12 plain load) {answers : Answers} {facts : HostFacts}
    {default : Interface} {network : NetworkConfig} (hr : answers.role ≠ .vps)
    (hi : facts.interface = some default)
    (hn : networkFor answers.lanInterface facts.interfaces default answers.wifi none =
      .ok network) :
    ∃ net, Reads 0 network.lines [("network", .map net)] ∧
      (((Written.map net).value plain).bind asNetworkConfig = some network ↔
        Readable answers facts) := by
  have hnames := section_interfaces network
  have hread : Readable answers facts ↔
      (isTyped (trim default.name) = false ∧
        ∀ name ∈ answers.lanInterface, isTyped (trim name) = false) ∧
      ∀ w ∈ answers.wifi, ∀ c ∈ w.ssid.val.toList, c.toNat < 0x10000 := by
    simp [Readable, plainNames, quotedNames, hr, hi]
  rw [hread]
  rcases networkFor_section hn with ⟨hl, hs⟩ | ⟨lan, start, last, hl, hs⟩
  · rw [hs] at hnames
    refine ⟨_, reads_sidecar hs hnames.1, ?_⟩
    rw [sidecar_back h hs (isName_interface hnames.1)]
    have hwifi : answers.wifi = none := by
      rw [networkFor, hl] at hn
      cases hw : answers.wifi with
      | none => rfl
      | some w => simp [hw] at hn
    have hlan : ∀ name ∈ answers.lanInterface, name = default.name := by
      intro name hm
      have hf := Option.filter_eq_none_iff.mp hl name hm
      simpa using hf
    rw [hwifi]
    constructor
    · intro ht
      exact ⟨⟨ht, fun name hm => by rw [hlan name hm, ht]⟩, by simp⟩
    · exact fun ht => ht.1.1
  · rw [hs] at hnames
    have hw := hnames.2 _ rfl
    refine ⟨_, reads_gateway hs hnames.1 hw, ?_⟩
    rw [gateway_back h hs (isName_interface hnames.1) (isName_interface hw) answers.wifi_stripped]
    have hlan : answers.lanInterface = some lan.name := by
      rw [Option.filter_eq_some_iff] at hl
      exact hl.1
    rw [hlan]
    constructor
    · rintro ⟨h1, h2, h3⟩
      exact ⟨⟨h2, by simpa using h1⟩, h3⟩
    · rintro ⟨⟨h2, h1⟩, h3⟩
      exact ⟨h1 _ rfl, h2, h3⟩

theorem readBack_iff (h : Yaml12 plain load) {answers : Answers} {facts : HostFacts} {c : Config}
    (hb : buildConfig answers facts = .ok c) :
    readBack load c = some c ↔ Readable answers facts := by
  by_cases hr : answers.role = .vps
  · have hv : buildVps answers facts = .ok c := by
      simpa only [buildConfig, hr] using hb
    obtain ⟨endpoint, firewall, he, hf, hc⟩ := buildVps_shape hv
    rw [readBack_vps h (firewallFor_ports hf) hc, vps_readable hr he]
  · obtain ⟨default, network, hi, hn, hc⟩ := buildConfig_shape hb hr
    obtain ⟨net, hreads, hnet⟩ := network_back h hr hi hn
    rw [← hnet]
    rcases hc with hc | hc
    · have hh : Role.home ≠ .vps := by decide
      exact readBack_lan h hh (by decide) (by decide) hc hreads
    · have hh : Role.client ≠ .vps := by decide
      exact readBack_lan h hh (by decide) (by decide) hc hreads

-- the box that is written is the box that was built exactly when its unquoted names are spelled as
-- text and its network name stays within one code unit a character
theorem written_config_iff (h : Yaml12 plain load) {answers : Answers} {facts : HostFacts}
    {c : Config} (hb : buildConfig answers facts = .ok c) :
    (readBack load c = some c ↔ Readable answers facts) ∧
      (checkRendered load c = .ok () ↔ Readable answers facts) :=
  ⟨readBack_iff h hb, checkRendered_eq_ok.trans (readBack_iff h hb)⟩

theorem buildConfig_home {answers : Answers} {facts : HostFacts} {default : Interface}
    {network : NetworkConfig} (hr : answers.role = .home) (hi : facts.interface = some default)
    (hn : networkFor answers.lanInterface facts.interfaces default answers.wifi none = .ok network)
    (hv : (homeFields network (uiVariantFor answers facts)).errors = []) :
    ∃ c, buildConfig answers facts = .ok c := by
  simp [buildConfig, hr, hi, hn, bind, Except.bind, validated, Fields.validate, hv]

def defaultRoute : Interface where
  name := "eth0"
  address := 0xC0A80102#32
  prefixlen := 24
  prefix_le := by decide

def homeLan : Interface where
  name := "eth1"
  address := 0x0A000001#32
  prefixlen := 24
  prefix_le := by decide

def hostFacts : HostFacts where
  interface := some defaultRoute
  interfaces := [defaultRoute, homeLan]

def accessPoint (ssid : Ssid) (hs : trim ssid.val = ssid.val) : Answers where
  role := .home
  lanInterface := some "eth1"
  wifi := some { ssid := ssid, country := ⟨"NL", by decide⟩ }
  wifi_stripped := by simpa using hs

def accessNetwork (ssid : Ssid) : NetworkSection where
  mode := .gateway
  lanInterface := "eth1"
  wanInterface := some "eth0"
  lanSubnet := homeLan.subnet
  lanAddress := homeLan.address
  wifi := some { ssid := ssid, country := ⟨"NL", by decide⟩ }
  dhcp := some { rangeStart := some 0x0A000064#32, rangeEnd := some 0x0A0000F9#32 }

def quietBox : Answers := accessPoint ⟨"Dom", by decide⟩ (by decide +kernel)

def houseBox : Answers := accessPoint ⟨"Dom 🏠", by decide⟩ (by decide +kernel)

theorem quietBox_built : ∃ c, buildConfig quietBox hostFacts = .ok c := by
  have hn : networkFor quietBox.lanInterface hostFacts.interfaces defaultRoute quietBox.wifi none =
      .ok ⟨accessNetwork ⟨"Dom", by decide⟩, by decide +kernel⟩ := by decide +kernel
  exact buildConfig_home rfl rfl hn (by decide)

theorem houseBox_built : ∃ c, buildConfig houseBox hostFacts = .ok c := by
  have hn : networkFor houseBox.lanInterface hostFacts.interfaces defaultRoute houseBox.wifi none =
      .ok ⟨accessNetwork ⟨"Dom 🏠", by decide⟩, by decide +kernel⟩ := by decide +kernel
  exact buildConfig_home rfl rfl hn (by decide)

theorem written_config_quiet : ∃ c, buildConfig quietBox hostFacts = .ok c ∧
    readBack loadCore c = some c ∧ checkRendered loadCore c = .ok () := by
  obtain ⟨c, hc⟩ := quietBox_built
  have hr : Readable quietBox hostFacts :=
    ⟨by decide, by simp [quotedNames, quietBox, accessPoint]⟩
  have hiff := written_config_iff yaml12_core hc
  exact ⟨c, hc, hiff.1.mpr hr, hiff.2.mpr hr⟩

-- a network name with a house in it: two escapes are written, each is read as half a character
theorem house_refused : ∃ c, buildConfig houseBox hostFacts = .ok c ∧
    readBack loadCore c ≠ some c ∧ checkRendered loadCore c ≠ .ok () := by
  obtain ⟨c, hc⟩ := houseBox_built
  have hr : ¬ Readable houseBox hostFacts := fun h => by
    have hs := h.2 "Dom 🏠" (by decide)
    simp at hs
  have hiff := readBack_iff yaml12_core hc
  exact ⟨c, hc, hr ∘ hiff.mp, fun h => hr (hiff.mp (checkRendered_eq_ok.mp h))⟩

end VibeDPN
