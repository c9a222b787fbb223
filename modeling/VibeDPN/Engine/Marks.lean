import VibeDPN.Lib.Runs
import VibeDPN.Engine.Ruleset

namespace VibeDPN

open Text Inet

theorem keyMark_ok {table : Dict String Uplink} {key : String} {mark : Nat} :
    keyMark table key = .ok mark ↔ ∃ u, table.get? key = some u ∧ u.mark = mark := by
  rw [keyMark]
  cases table.get? key <;> simp

namespace Fields

theorem channelMark_eq (c : Fields) (item : DomainChannel) :
    channelMark c.uplinkTable item =
      match item.key with
      | some key => (keyMark c.uplinkTable key).map some
      | none => .ok none := by
  have hf : ∀ u : Upstream, keyMark c.uplinkTable u.value = .ok (uplinks u).mark := fun u =>
    keyMark_ok.mpr ⟨uplinks u, c.uplinkTable_fixed u, rfl⟩
  obtain ⟨via, country, uplink, -⟩ := item
  cases via <;> cases country <;> cases uplink <;>
    simp [channelMark, DomainChannel.key, ruleUplinks, hf, Except.map]

theorem smartChannels_subset (c : Fields) : c.smartChannels ⊆ c.channels := by
  intro item hi
  cases hr : c.routing with
  | none => simp [smartChannels, hr] at hi
  | some routing =>
    simp only [smartChannels, hr] at hi
    simp only [channels, hr]
    split at hi
    · exact hi
    · simp at hi

theorem smartRules_channels {c : Fields} {rule : NetworkRule} (h : rule ∈ c.smartRules) :
    rule.toDomainChannel ∈ c.smartChannels := by
  cases hr : c.routing with
  | none => simp [smartRules, hr] at h
  | some routing =>
    simp only [smartRules, hr] at h
    split at h
    · rename_i hm
      simp only [smartChannels, hr, hm, if_true, RoutingConfig.channels, RoutingConfig.subjects,
        List.mem_map, List.mem_append]
      exact ⟨(rule.subject, rule.toDomainChannel), .inr ⟨rule, h, rfl⟩, rfl⟩
    · simp at h

theorem key_wanted {c : Fields} {item : DomainChannel} (hi : item ∈ c.smartChannels) {key : String}
    (hk : item.key = some key) : key ∈ c.wantedUplinks := by
  simp only [wantedUplinks, List.mem_append, List.mem_filterMap]
  exact .inl (.inr ⟨item, hi, hk⟩)

theorem policy_wanted {c : Fields} (hn : c.network.isSome) {d : DeviceConfig} (hd : d ∈ c.devices)
    {up : Upstream} (hp : policyUplinks d.policy = some up) : up.value ∈ c.wantedUplinks := by
  simp only [wantedUplinks, List.mem_append, hn, if_true, List.mem_filterMap]
  exact .inr ⟨d, hd, by simp [hp]⟩

theorem channelMark_inUse {c : Fields} {item : DomainChannel} (hi : item ∈ c.smartChannels)
    {mark : Nat} (h : channelMark c.uplinkTable item = .ok (some mark)) :
    ∃ u ∈ c.uplinksInUse, u.mark = mark := by
  rw [channelMark_eq] at h
  cases hk : item.key with
  | none => simp [hk] at h
  | some key =>
    cases hm : keyMark c.uplinkTable key with
    | error e => simp [hk, hm, Except.map] at h
    | ok n =>
      obtain ⟨u, hu, hun⟩ := keyMark_ok.mp hm
      simp only [hk, hm, Except.map, Except.ok.injEq, Option.some.injEq] at h
      exact ⟨u, mem_uplinksInUse (key_wanted hi hk) hu, hun.trans h⟩

theorem modeMark_inUse {c : Fields} {mark : Nat} (h : c.modeMark = .ok (some mark)) :
    ∃ u ∈ c.uplinksInUse, u.mark = mark := by
  rw [modeMark] at h
  cases ha : c.activeUplink with
  | none => simp [ha] at h
  | some active =>
    cases hm : keyMark c.uplinkTable active with
    | error e => simp [ha, hm, Except.map] at h
    | ok n =>
      obtain ⟨u, hu, hun⟩ := keyMark_ok.mp hm
      simp only [ha, hm, Except.map, Except.ok.injEq, Option.some.injEq] at h
      exact ⟨u, mem_uplinksInUse (by simp [wantedUplinks, ha]) hu, hun.trans h⟩

theorem smartMarks_inUse {c : Fields} {marks : List UplinkPolicy} (h : c.smartMarks = .ok marks) :
    ∀ m ∈ marks, ∃ u ∈ c.uplinksInUse, u.mark = m.mark := by
  simp only [smartMarks, bind, Except.bind, pure, Except.pure] at h
  split at h
  · simp at h
  · rename_i items hitems
    simp only [Except.ok.injEq] at h
    subst h
    intro m hm
    obtain ⟨e, he, rfl⟩ := List.mem_map.mp hm
    rw [(List.perm_insertionSort _ _).mem_iff] at he
    obtain he | he := Dict.mem_update he
    · simp [Dict.empty] at he
    · obtain ⟨x, hx, hxe⟩ := List.mem_filterMap.mp he
      obtain ⟨item, hi, hc⟩ := mapM_ok hitems x hx
      obtain ⟨mark, hmark, rfl⟩ := Option.map_eq_some_iff.mp hxe
      split at hc
      · simp at hc
      · rename_i v hv
        simp only [Except.ok.injEq] at hc
        subst hc
        exact channelMark_inUse hi (hv.trans (congrArg Except.ok hmark))

theorem mem_addNetwork {d : Dict String NetworkSet} {set : NetworkSet} {e : String × NetworkSet}
    (h : e ∈ (addNetwork d set).entries) : e ∈ d.entries ∨ e.2.mark = set.mark := by
  rw [← Dict.get?_eq_some_iff, addNetwork] at h
  rw [← Dict.get?_eq_some_iff]
  split at h
  · rw [Dict.get?_set] at h
    split at h
    · simp only [Option.some.injEq] at h
      exact .inr (by rw [← h])
    · exact .inl h
  · rw [Dict.get?_set] at h
    split at h
    · simp only [Option.some.injEq] at h
      exact .inr (by rw [← h])
    · exact .inl h

theorem mem_addNetworks {d : Dict String NetworkSet} {sets : List NetworkSet}
    {e : String × NetworkSet} (h : e ∈ (sets.foldl addNetwork d).entries) :
    e ∈ d.entries ∨ ∃ set ∈ sets, e.2.mark = set.mark := by
  induction sets generalizing d with
  | nil => exact .inl h
  | cons set sets ih =>
    rcases ih h with h | ⟨s, hs, hm⟩
    · rcases mem_addNetwork h with h | h
      · exact .inl h
      · exact .inr ⟨set, by simp, h⟩
    · exact .inr ⟨s, by simp [hs], hm⟩

theorem smartNetworks_inUse {c : Fields} {nets : List NetworkSet} (h : c.smartNetworks = .ok nets) :
    ∀ net ∈ nets, ∀ mark, net.mark = some mark → ∃ u ∈ c.uplinksInUse, u.mark = mark := by
  simp only [smartNetworks, bind, Except.bind, pure, Except.pure] at h
  split at h
  · simp at h
  · rename_i items hitems
    simp only [Except.ok.injEq] at h
    subst h
    intro net hnet mark hmark
    rw [(List.perm_insertionSort _ _).mem_iff, List.mem_map] at hnet
    obtain ⟨set, hset, rfl⟩ := hnet
    obtain ⟨e, he, rfl⟩ := List.mem_map.mp hset
    rcases mem_addNetworks he with he | ⟨s, hs, hm⟩
    · simp [Dict.empty] at he
    · obtain ⟨rule, hr, hc⟩ := mapM_ok hitems s hs
      split at hc
      · simp at hc
      · rename_i v hv
        simp only [Except.ok.injEq] at hc
        subst hc
        exact channelMark_inUse (smartRules_channels hr) (hv.trans (congrArg Except.ok (hm.symm.trans hmark)))

theorem mem_deviceSets {c : Fields} {name element : String} :
    (c.deviceSets.any (fun set => set.name = name && element ∈ set.elements)) = true ↔
      ∃ policy, (macSetName policy.value = name ∧ element ∈ c.devices.filterMap (macElement policy)) ∨
        (ipSetName policy.value = name ∧ element ∈ c.devices.filterMap (ipElement policy)) := by
  simp only [deviceSets, List.any_flatMap, List.any_cons, List.any_nil, Bool.or_false,
    List.any_eq_true, Bool.or_eq_true, Bool.and_eq_true, decide_eq_true_eq]
  constructor
  · rintro ⟨policy, -, h⟩
    exact ⟨policy, h⟩
  · rintro ⟨policy, h⟩
    exact ⟨policy, by cases policy <;> decide, h⟩

theorem macSetName_injective {p q : DevicePolicy} (h : macSetName p.value = macSetName q.value) :
    p = q := by
  revert h
  cases p <;> cases q <;> decide

theorem ipSetName_injective {p q : DevicePolicy} (h : ipSetName p.value = ipSetName q.value) :
    p = q := by
  revert h
  cases p <;> cases q <;> decide

theorem macSetName_ne_ipSetName (p q : DevicePolicy) : macSetName p.value ≠ ipSetName q.value := by
  cases p <;> cases q <;> decide

theorem mem_macSet {c : Fields} {policy : DevicePolicy} {element : String} :
    c.deviceSets.any (fun set => set.name = macSetName policy.value && element ∈ set.elements) =
      true ↔ element ∈ c.devices.filterMap (macElement policy) := by
  rw [mem_deviceSets]
  constructor
  · rintro ⟨q, ⟨hn, he⟩ | ⟨hn, -⟩⟩
    · exact macSetName_injective hn ▸ he
    · exact absurd hn.symm (macSetName_ne_ipSetName policy q)
  · exact fun h => ⟨policy, .inl ⟨rfl, h⟩⟩

theorem mem_ipSet {c : Fields} {policy : DevicePolicy} {element : String} :
    c.deviceSets.any (fun set => set.name = ipSetName policy.value && element ∈ set.elements) =
      true ↔ element ∈ c.devices.filterMap (ipElement policy) := by
  rw [mem_deviceSets]
  constructor
  · rintro ⟨q, ⟨hn, -⟩ | ⟨hn, he⟩⟩
    · exact absurd hn (macSetName_ne_ipSetName q policy)
    · exact ipSetName_injective hn ▸ he
  · exact fun h => ⟨policy, .inr ⟨rfl, h⟩⟩

end Fields

structure Rendered (c : Fields) (rs : RouterRuleset) : Prop where
  network : ∃ network, c.network = some network ∧ rs.lanInterface = network.lanInterface ∧
    rs.lanSubnet = network.lanSubnet
  sets : rs.sets = c.deviceSets
  smartSets : rs.smartSets = c.smartSetNames
  rules : ∃ marks nets mode, c.smartMarks = .ok marks ∧ c.smartNetworks = .ok nets ∧
    c.modeMark = .ok mode ∧ rs.networkSets = nets ∧ rs.rules = chainRules nets marks mode ∧
    rs.dnsMark = if c.dns.enabled then mode else none

theorem rendered_of_ok {c : Fields} {rs : RouterRuleset} (h : routerRuleset c = .ok (some rs)) :
    Rendered c rs := by
  rw [routerRuleset] at h
  cases hn : c.network with
  | none => simp [hn] at h
  | some network =>
    cases hm : c.smartMarks with
    | error e => simp [hn, hm, bind, Except.bind] at h
    | ok marks =>
      cases hs : c.smartNetworks with
      | error e => simp [hn, hm, hs, bind, Except.bind] at h
      | ok nets =>
        cases hd : c.modeMark with
        | error e => simp [hn, hm, hs, hd, bind, Except.bind] at h
        | ok mode =>
          simp only [hn, hm, hs, hd, bind, Except.bind, pure, Except.pure, Except.ok.injEq,
            Option.some.injEq] at h
          subst h
          exact ⟨⟨network, hn, rfl, rfl⟩, rfl, rfl, marks, nets, mode, hm, hs, hd, rfl, rfl, rfl⟩

theorem mem_policyRules {policy : String} {mark : Option Nat} {r : MarkRule}
    (h : r ∈ policyRules policy mark) : r.mark = mark ∧
      (r.cond = .etherSaddr (macSetName policy) ∨ r.cond = .ipSaddr (ipSetName policy)) := by
  simp only [policyRules, List.mem_cons, List.not_mem_nil, or_false] at h
  rcases h with rfl | rfl
  · exact ⟨rfl, .inl rfl⟩
  · exact ⟨rfl, .inr rfl⟩

namespace Fields

theorem mac_policy {c : Fields} {policy : DevicePolicy} {element : String}
    (h : element ∈ c.devices.filterMap (macElement policy)) :
    ∃ d ∈ c.devices, d.policy = policy ∧ d.mac.map Subtype.val = some element := by
  obtain ⟨d, hd, he⟩ := List.mem_filterMap.mp h
  rw [macElement] at he
  split at he
  · rename_i hp
    exact ⟨d, hd, hp, he⟩
  · simp at he

theorem ip_policy {c : Fields} {policy : DevicePolicy} {element : String}
    (h : element ∈ c.devices.filterMap (ipElement policy)) :
    ∃ d ∈ c.devices, d.policy = policy ∧ d.mac = none ∧ d.ip.map IPv4Address.str = some element := by
  obtain ⟨d, hd, he⟩ := List.mem_filterMap.mp h
  rw [ipElement] at he
  split at he
  · rename_i hp
    exact ⟨d, hd, hp.1, hp.2, he⟩
  · simp at he

theorem policyRule_inUse {c : Fields} (hn : c.network.isSome) {rs : RouterRuleset}
    (hs : rs.sets = c.deviceSets) {policy : DevicePolicy} {up : Upstream}
    (hp : policyUplinks policy = some up) {smart : String → List IPv4Address} {p : Packet}
    {cond : MarkCond}
    (hc : cond = .etherSaddr (macSetName policy.value) ∨ cond = .ipSaddr (ipSetName policy.value))
    (ha : rs.admits smart p cond = true) : uplinks up ∈ c.uplinksInUse := by
  have hd : ∃ d ∈ c.devices, d.policy = policy := by
    rcases hc with rfl | rfl
    · simp only [RouterRuleset.admits, RouterRuleset.deviceMember, hs] at ha
      obtain ⟨d, hd, hdp, -⟩ := mac_policy (mem_macSet.mp ha)
      exact ⟨d, hd, hdp⟩
    · simp only [RouterRuleset.admits, RouterRuleset.deviceMember, hs] at ha
      obtain ⟨d, hd, hdp, -⟩ := ip_policy (mem_ipSet.mp ha)
      exact ⟨d, hd, hdp⟩
  obtain ⟨d, hd, rfl⟩ := hd
  exact mem_uplinksInUse (policy_wanted hn hd hp) (c.uplinkTable_fixed up)

theorem canMark_inUse {c : Fields} {rs : RouterRuleset} (h : routerRuleset c = .ok (some rs))
    {mark : Nat} (hm : rs.CanMark mark) (hb : mark ≠ blockMark) :
    ∃ u ∈ c.uplinksInUse, u.mark = mark := by
  obtain ⟨⟨network, hn, -, -⟩, hs, -, marks, nets, mode, hmarks, hnets, hmode, -, hrules, hdns⟩ :=
    rendered_of_ok h
  have hmodeUse : ∀ n, mode = some n → ∃ u ∈ c.uplinksInUse, u.mark = n := fun n he =>
    modeMark_inUse (hmode.trans (congrArg Except.ok he))
  obtain ⟨smart, p, hpre | ⟨skuid, hdnsm⟩⟩ := hm
  · obtain ⟨r, hr, hrm, ha⟩ := RouterRuleset.prerouting_some hpre
    rw [hrules] at hr
    simp only [chainRules, List.mem_append, List.mem_flatMap, List.mem_map, Option.mem_toList] at hr
    rcases hr with ((((hr | hr) | ⟨q, hq, hr⟩) | ⟨net, hnet, rfl⟩) | ⟨m, hmm, rfl⟩) | ⟨n, hn', rfl⟩
    · rw [(mem_policyRules hr).1] at hrm
      simp at hrm
    · rw [(mem_policyRules hr).1] at hrm
      exact absurd (Option.some.inj hrm).symm hb
    · obtain ⟨hqm, hqc⟩ := mem_policyRules hr
      rw [hqm] at hrm
      simp only [uplinkPolicies, List.mem_map] at hq
      obtain ⟨e, he, rfl⟩ := hq
      have hpe : policyUplinks e.1 = some e.2 := by
        clear hr hrm hqm hqc
        revert e
        decide
      exact ⟨_, policyRule_inUse (by simp [hn]) hs hpe hqc ha, Option.some.inj hrm⟩
    · exact smartNetworks_inUse hnets net hnet mark hrm
    · obtain ⟨u, hu, hum⟩ := smartMarks_inUse hmarks m hmm
      exact ⟨u, hu, hum.trans (Option.some.inj hrm)⟩
    · exact hmodeUse mark (hn'.trans hrm)
  · have hd := RouterRuleset.dnsUplink_some hdnsm
    rw [hdns] at hd
    split at hd
    · exact hmodeUse mark hd
    · simp at hd

end Fields

namespace Config

theorem wg_key_enabled {c : Config} {name : WgName}
    (h : c.upstreams.isKeyEnabled (wgKey name) = some true) : name ∈ c.exitNames := by
  rw [wgKey, UpstreamsConfig.isKeyEnabled, startsWith_append, if_pos rfl, removePrefix_append,
    check_val] at h
  simp only [Option.bind_some] at h
  rw [Fields.mem_exitNames, ← Dict.get?_isSome_iff]
  split at h
  · rename_i hu
    simp [hu]
  · simp at h

theorem key_total {c : Config} {item : DomainChannel} (hi : item ∈ c.channels) :
    ∃ mark, channelMark c.uplinkTable item = .ok mark := by
  rw [Fields.channelMark_eq]
  cases hk : item.key with
  | none => exact ⟨none, rfl⟩
  | some key =>
    have hu : ∃ u, c.uplinkTable.get? key = some u := by
      obtain ⟨via, country, uplink, hc⟩ := item
      have hfix : ∀ up : Upstream, up.value = key → ∃ u, c.uplinkTable.get? key = some u :=
        fun up he => ⟨uplinks up, he ▸ c.uplinkTable_fixed up⟩
      cases via with
      | vps => exact hfix .vps (by simpa [DomainChannel.key, ruleUplinks] using hk)
      | tor => exact hfix .tor (by simpa [DomainChannel.key, ruleUplinks] using hk)
      | direct => simp [DomainChannel.key, ruleUplinks] at hk
      | dpn =>
        cases country with
        | none => exact hfix .dpn (by simpa [DomainChannel.key, ruleUplinks] using hk)
        | some country =>
          simp only [DomainChannel.key, Option.some.injEq] at hk
          have hmem : country ∈ c.ruleCountries := Fields.mem_ruleCountries.mpr ⟨_, hi, rfl, rfl⟩
          obtain ⟨i, hi'⟩ := List.mem_iff_getElem?.mp hmem
          exact ⟨_, hk ▸ Fields.uplinkTable_country hi'⟩
      | wg =>
        cases uplink with
        | none => simp [checkCountryChannel] at hc
        | some name =>
          simp only [DomainChannel.key, Option.some.injEq] at hk
          have hmem : name ∈ c.exitNames := wg_key_enabled (exit_enabled hi rfl rfl)
          obtain ⟨i, hi'⟩ := List.mem_iff_getElem?.mp hmem
          exact ⟨_, hk ▸ Fields.uplinkTable_wg hi'⟩
    obtain ⟨u, hu⟩ := hu
    exact ⟨some u.mark, by simp [keyMark, hu, Except.map]⟩

theorem modeMark_total (c : Config) : ∃ mode, c.modeMark = .ok mode := by
  rw [Fields.modeMark]
  cases ha : c.activeUplink with
  | none => exact ⟨none, rfl⟩
  | some active =>
    have hu : ∃ u, c.uplinkTable.get? active = some u := by
      cases hr : c.routing with
      | none => simp [Fields.activeUplink, hr] at ha
      | some routing =>
        have hm : routing.mode ≠ .off ∧ routing.defaultUpstream.val = active := by
          simp only [Fields.activeUplink, hr] at ha
          split at ha
          · rename_i heq
            cases heq
            split at ha
            · rename_i hf
              exact ⟨by simp [hf], Option.some.inj ha⟩
            · simp at ha
          · simp at ha
        have he := default_enabled hr hm.1
        have hkey := routing.defaultUpstream.property
        rw [hm.2] at he hkey
        rw [isUplinkKey] at hkey
        split at hkey
        · rename_i hs
          obtain ⟨t, rfl⟩ := startsWith_iff.mp hs
          rw [removePrefix_append] at hkey
          have hmem : (⟨t, hkey⟩ : WgName) ∈ c.exitNames := wg_key_enabled he
          obtain ⟨i, hi'⟩ := List.mem_iff_getElem?.mp hmem
          exact ⟨_, Fields.uplinkTable_wg hi'⟩
        · obtain ⟨up, hup⟩ := Option.isSome_iff_exists.mp hkey
          have hv : up.value = active := by simpa using List.find?_some hup
          exact ⟨_, hv ▸ c.uplinkTable_fixed up⟩
    obtain ⟨u, hu⟩ := hu
    exact ⟨some u.mark, by simp [keyMark, hu, Except.map]⟩

theorem smartMarks_total (c : Config) : ∃ marks, c.smartMarks = .ok marks := by
  have h : ∃ items, c.smartChannels.mapM (fun item => do
      return (channelSet item, ← channelMark c.uplinkTable item)) = .ok items := by
    apply mapM_total
    intro item hi
    obtain ⟨mark, hm⟩ := key_total (c.smartChannels_subset hi)
    exact ⟨(channelSet item, mark), by simp [hm, bind, Except.bind, pure, Except.pure]⟩
  obtain ⟨items, hi⟩ := h
  exact ⟨_, by rw [Fields.smartMarks, hi]; rfl⟩

theorem smartNetworks_total (c : Config) : ∃ nets, c.smartNetworks = .ok nets := by
  have h : ∃ items, c.smartRules.mapM (fun item => do
      return (⟨channelSet item.toDomainChannel ++ networkSetSuffix,
        ← channelMark c.uplinkTable item.toDomainChannel, [item.network]⟩ : NetworkSet)) =
      .ok items := by
    apply mapM_total
    intro item hi
    obtain ⟨mark, hm⟩ := key_total (c.smartChannels_subset (Fields.smartRules_channels hi))
    exact ⟨⟨channelSet item.toDomainChannel ++ networkSetSuffix, mark, [item.network]⟩,
      by simp [hm, bind, Except.bind, pure, Except.pure]⟩
  obtain ⟨items, hi⟩ := h
  exact ⟨_, by rw [Fields.smartNetworks, hi]; rfl⟩

theorem routerRuleset_total {c : Config} (hn : c.network.isSome) :
    ∃ rs, routerRuleset c.toFields = .ok (some rs) := by
  obtain ⟨network, hn⟩ := Option.isSome_iff_exists.mp hn
  obtain ⟨marks, hm⟩ := c.smartMarks_total
  obtain ⟨nets, hs⟩ := c.smartNetworks_total
  obtain ⟨mode, hd⟩ := c.modeMark_total
  exact ⟨_, by rw [routerRuleset, hn, hm, hs, hd]; rfl⟩

end Config

end VibeDPN
