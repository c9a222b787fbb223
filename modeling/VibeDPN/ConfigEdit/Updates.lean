import VibeDPN.ConfigEdit.Spelling

namespace VibeDPN

open Text Inet Keyed

def Fields.mapRouting (c : Fields) (f : RoutingConfig → Option RoutingConfig) : Option Fields :=
  c.routing.bind fun routing => (f routing).map fun routing => { c with routing := some routing }

def Fields.withWg (c : Fields) (wg : Dict WgName WgUplink) : Fields :=
  { c with upstreams := { c.upstreams with wg := wg } }

def DeviceIdent.names (ident : DeviceIdent) (d : DeviceConfig) : Bool :=
  match ident with
  | .mac m => d.mac = some m
  | .ip a => d.ip = some a

def DeviceIdent.device (ident : DeviceIdent) (name : DeviceName) (policy : DevicePolicy) :
    DeviceConfig :=
  match ident with
  | .mac m => { name := name, mac := some m, policy := policy }
  | .ip a => { name := name, ip := some a, policy := policy }

-- the update of the model that an edit stands for, keyed by normalised values
def Edit.updateFields (c : Fields) : Edit → Option Fields
  | .setDomainRule rule => c.mapRouting fun r =>
      (alterFirstM (fun x => x.domain = rule.domain) (fun _ => some rule) (some rule) r.domains).map
        fun domains => { r with domains := domains }
  | .removeDomainRule domain => (normalizeDomain domain).bind fun wanted => c.mapRouting fun r =>
      (dropFirst (fun x => x.domain = wanted) r.domains).map
        fun domains => { r with domains := domains }
  | .setNetworkRule rule => c.mapRouting fun r =>
      (alterFirstM (fun x => x.network = rule.network) (fun _ => some rule) (some rule)
        r.networks).map fun networks => { r with networks := networks }
  | .removeNetworkRule network => (validateNetwork network).bind fun wanted => c.mapRouting fun r =>
      (dropFirst (fun x => x.network = wanted) r.networks).map
        fun networks => { r with networks := networks }
  | .setDomainList item => c.mapRouting fun r =>
      (alterFirstM (fun x => x.url = item.url) (fun _ => some item) (some item) r.lists).map
        fun lists => { r with lists := lists }
  | .removeDomainList url => (validateUrl url).bind fun wanted => c.mapRouting fun r =>
      (dropFirst (fun x => x.url = wanted) r.lists).map fun lists => { r with lists := lists }
  | .setDevice ident policy name defaultName =>
      (alterFirstM ident.names
        (fun d => (optional validateName name).map fun name =>
          { d with policy := policy, name := name.getD d.name })
        ((validateName (newName name defaultName)).map fun name => ident.device name policy)
        c.devices).map fun devices => { c with devices := devices }
  | .unsetDevice ident =>
      (dropFirst ident.names c.devices).map fun devices => { c with devices := devices }
  | .setWgUplink name enabled => (validateWgName name).map fun name =>
      c.withWg (c.upstreams.wg.set name { enabled := enabled })
  | .removeWgUplink name => (validateWgName name).bind fun name =>
      if name ∈ c.upstreams.wg.keys then some (c.withWg (c.upstreams.wg.erase name)) else none

def Edit.update (c : Config) (op : Edit) : Option Config :=
  (op.updateFields c.toFields).bind Fields.validate

theorem optional_map_val {p : String → Bool} {f : String → Option {s : String // p s = true}}
    (hf : ∀ x : {s : String // p s = true}, f x.val = some x)
    (x : Option {s : String // p s = true}) : optional f (x.map Subtype.val) = some x := by
  cases x with
  | none => rfl
  | some x => simp [optional, hf]

theorem mapM_map_val {p : String → Bool} {f : String → Option {s : String // p s = true}}
    (hf : ∀ x : {s : String // p s = true}, f x.val = some x)
    (l : List {s : String // p s = true}) : (l.map Subtype.val).mapM f = some l := by
  induction l with
  | nil => rfl
  | cons x l ih => rw [List.map_cons, mapM_cons_of_some (hf x), ih, Option.map_some]

theorem DomainChannel.validate_node (c : DomainChannel) : c.node.validate = some c := by
  simp only [DomainChannel.node, ChannelNode.validate, optional_map_val normalizeCountry_val,
    optional_map_val validateWgName_val, Option.bind_some]
  exact dif_pos c.checked

theorem DomainRule.validate_node (rule : DomainRule) : rule.node.validate = some rule := by
  simp only [DomainRule.node, DomainNode.validate, DomainChannel.validate_node, Option.bind_some,
    validateDomain_val, mapM_map_val validateDomain_val, Option.map_some]

theorem NetworkRule.validate_node (rule : NetworkRule) : rule.node.validate = some rule := by
  simp only [NetworkRule.node, NetworkNode.validate, DomainChannel.validate_node, Option.bind_some,
    validateNetwork_str, Option.map_some]

theorem DomainList.validate_node (item : DomainList) : item.node.validate = some item := by
  simp only [DomainList.node, ListNode.validate, DomainChannel.validate_node, Option.bind_some,
    validateUrl_val, Option.map_some]

theorem DeviceIdent.validate_node (ident : DeviceIdent) (name : String) (policy : DevicePolicy) :
    (ident.node name policy).validate =
      (validateName name).map fun name => ident.device name policy := by
  cases ident with
  | mac m =>
    cases h : validateName name <;>
      simp [DeviceIdent.node, DeviceNode.validate, DeviceIdent.device, optional, validateMac_val, h]
  | ip a =>
    cases h : validateName name <;>
      simp [DeviceIdent.node, DeviceNode.validate, DeviceIdent.device, optional, ipText_address, h]

theorem DeviceNode.validate_eq_some {n : DeviceNode} {d : DeviceConfig} :
    n.validate = some d ↔ validateName n.name = some d.name ∧
      optional validateMac n.mac = some d.mac ∧ optional IpNode.address n.ip = some d.ip ∧
      n.policy = d.policy := by
  simp only [DeviceNode.validate, Option.bind_eq_some_iff, Option.map_eq_some_iff]
  constructor
  · rintro ⟨name, hn, mac, hm, ip, hi, rfl⟩
    exact ⟨hn, hm, hi, rfl⟩
  · rintro ⟨hn, hm, hi, hp⟩
    exact ⟨_, hn, _, hm, _, hi, by rw [hp]⟩

namespace RoutingNode

variable {r : RoutingNode} {R : RoutingConfig}

theorem validate_eq_some (h : r.validate = some R) :
    (∃ nodes, r.migrateSmartDomains = some nodes ∧
      nodes.mapM DomainNode.validate = some R.domains) ∧
      (r.lists.getD []).mapM ListNode.validate = some R.lists ∧
      (r.networks.getD []).mapM NetworkNode.validate = some R.networks ∧
      check isUplinkKey (trim r.defaultUpstream) = some R.defaultUpstream ∧
      r.mode = R.mode ∧ r.failopen = R.failopen := by
  simp only [validate, Option.bind_eq_some_iff, Option.map_eq_some_iff] at h
  obtain ⟨domains, ⟨nodes, hn, hd⟩, lists, hl, networks, hw, key, hk, rfl⟩ := h
  exact ⟨⟨nodes, hn, hd⟩, hl, hw, hk, rfl, rfl⟩

end RoutingNode

namespace Document

variable {d : Document}

structure Parts (d : Document) (c : Fields) : Prop where
  routing : optional RoutingNode.validate d.routing = some c.routing
  devices : (d.devices.getD []).mapM DeviceNode.validate = some c.devices
  upstreams : (d.upstreams.getD {}).validate = some c.upstreams
  rest : c.role = d.role ∧ c.network = d.network ∧ c.provider = d.provider.getD {} ∧
    c.wgServer = d.wgServer ∧ c.dns = d.dns.getD {} ∧ c.ui = d.ui.getD {} ∧ c.api = d.api.getD {} ∧
    c.firewall = d.firewall.getD {}
  sections : d.misplaced = false

theorem parts {c : Config} (h : d.validate = some c) : d.Parts c.toFields := by
  obtain ⟨hf, hs⟩ := validate_eq_some h
  simp only [fields, Option.bind_eq_some_iff, Option.map_eq_some_iff] at hf
  obtain ⟨routing, hr, devices, hd, upstreams, hu, hc⟩ := hf
  rw [← hc]
  exact ⟨hr, hd, hu, ⟨rfl, rfl, rfl, rfl, rfl, rfl, rfl, rfl⟩, hs⟩

namespace Parts

variable {c : Fields}

theorem role_ne_vps (h : d.Parts c) (hl : d.lanSections = true) : d.role ≠ .vps :=
  fun hv => absurd h.sections (by simp [misplaced, hv, hl])

theorem routing_some (h : d.Parts c) {r : RoutingNode} (hr : d.routing = some r) :
    ∃ R, c.routing = some R ∧ r.validate = some R := by
  have hp := h.routing
  rw [hr, optional, Option.map_eq_some_iff] at hp
  obtain ⟨R, hR, he⟩ := hp
  exact ⟨R, he.symm, hR⟩

theorem routing_none (h : d.Parts c) (hr : d.routing = none) : c.routing = none := by
  have hp := h.routing
  rw [hr, optional, Option.some.injEq] at hp
  exact hp.symm

end Parts

end Document

end VibeDPN
