import VibeDPN.Compose.Containers

namespace VibeDPN

open Text

def wgConfFile (name : WgName) : String := "wg-" ++ name.val ++ ".conf"

namespace Fields

def countrySecrets (c : Fields) : List String := c.ruleCountries.map countryPassphraseFile

def wgUplinkSecrets (c : Fields) : List String :=
  (c.exitNames.filter c.exitEnabled).map wgConfFile

def requiredSecrets (c : Fields) : List String :=
  [htpasswdFile] ++
    (if c.role = .client then [wgClientConf] else []) ++
    (if c.provider.enabled then [nodeuiPassFile] else []) ++
    c.generatedSecrets ++ c.countrySecrets ++ c.wgUplinkSecrets

end Fields

-- secrets: the files of secrets/ that are mounted, or that core unlocks the service with
structure ComposeService where
  name : String
  profiles : List Profile := []
  address : Option String := none
  secrets : List String := []
deriving DecidableEq

def mystConsumer : ComposeService :=
  { name := "myst-consumer"
    profiles := [.consumer]
    address := some (upstreamsAddress 20)
    secrets := [consumerPassphraseFile] }

def wgClient : ComposeService :=
  { name := "wg-client"
    profiles := [.wgClient]
    address := some (upstreamsAddress 10)
    secrets := [wgClientConf] }

def torGateway : ComposeService :=
  { name := "tor"
    profiles := [.tor]
    address := some (upstreamsAddress 60) }

def composeServices : List ComposeService :=
  [{ name := "core" },
    { name := "ui", profiles := [.ui], secrets := htpasswdFile :: uiSecrets },
    { name := "ui-db", profiles := [.ui], secrets := [uiDbPasswordFile] },
    { name := "myst-provider", profiles := [.provider] },
    { name := "myst-relay", profiles := [.consumer, .provider], address := some relayAddress },
    mystConsumer, wgClient,
    { name := "wg-server", profiles := [.wgServer] },
    torGateway,
    { name := "hostapd", profiles := [.wifi] },
    { name := "dnsmasq", profiles := [.dhcp] },
    { name := "adguard", profiles := [.dns] }]

-- extends adds to the profiles of the base service and replaces its address and its mount
def Container.compose (k : Container) : ComposeService :=
  match k.owner with
  | .country country =>
    { mystConsumer with
      name := k.service
      address := some k.address
      secrets := [countryPassphraseFile country] }
  | .exit name =>
    { wgClient with
      name := k.service
      profiles := wgClient.profiles ++ [.wgUplink]
      address := some k.address
      secrets := [wgConfFile name] }

def composeProject (c : Fields) : List ComposeService :=
  composeServices ++ (generated c).map Container.compose

def ComposeService.isActive (s : ComposeService) (c : Fields) : Bool :=
  s.profiles = [] || s.profiles.any (fun profile => profile ∈ c.composeProfiles)

def upstreamService : Upstream → ComposeService
  | .vps => wgClient
  | .dpn => mystConsumer
  | .tor => torGateway

-- none is the KeyError of the last lookup
def uplinkService (key : String) : Option String :=
  if startsWith key countryKeyPrefix then
    some ("myst-consumer-" ++ removePrefix key countryKeyPrefix)
  else if startsWith key wgKeyPrefix then some key
  else (Upstream.ofValue key).map (fun u => (upstreamService u).name)

def countryService (country : Country) (i : Nat) : ComposeService :=
  { mystConsumer with
    name := "myst-consumer-" ++ lower country.val
    address := some (upstreamsAddress (countryGatewayBase + i))
    secrets := [countryPassphraseFile country] }

def exitService (name : WgName) (i : Nat) : ComposeService :=
  { wgClient with
    name := wgKey name
    profiles := [.wgClient, .wgUplink]
    address := some (upstreamsAddress (wgGatewayBase + i))
    secrets := [wgConfFile name] }

structure Serves (c : Fields) (key : String) (u : Uplink) (s : ComposeService) : Prop where
  project : s ∈ composeProject c
  name : uplinkService key = some s.name
  active : s.isActive c = true
  gateway : s.address = some u.gateway
  secrets : ∀ file ∈ s.secrets, file ∈ c.requiredSecrets
  only : ∀ t ∈ composeProject c, t.name = s.name → t = s
  alone : ∀ t ∈ composeProject c, t.address = s.address → t = s

structure LiveGateway (c : Fields) (key : String) : Prop where
  enabled : c.upstreams.isKeyEnabled key = some true
  served : ∃ u, c.uplinkTable.get? key = some u ∧ ∃ s, Serves c key u s

theorem mem_composeProject {c : Fields} {s : ComposeService} :
    s ∈ composeProject c ↔ s ∈ composeServices ∨
      (∃ country i, c.ruleCountries[i]? = some country ∧ s = countryService country i) ∨
      ∃ name i, c.exitNames[i]? = some name ∧ c.exitEnabled name = true ∧ s = exitService name i := by
  simp only [composeProject, generated, List.map_append, List.mem_append]
  refine or_congr_right (or_congr ?_ ?_)
  · simp only [renderCountries, List.map_map, List.mem_map, Fields.countryUplinks, Prod.exists]
    constructor
    · rintro ⟨country, u, he, rfl⟩
      obtain ⟨i, hi, rfl⟩ := mem_slots.mp he
      exact ⟨country, i, hi, rfl⟩
    · rintro ⟨country, i, hi, rfl⟩
      exact ⟨country, countrySlot i, mem_slots.mpr ⟨i, hi, rfl⟩, rfl⟩
  · simp only [renderWgUplinks, List.map_map, List.mem_map, List.mem_filter, Fields.wgUplinks,
      Prod.exists]
    constructor
    · rintro ⟨name, u, ⟨he, hen⟩, rfl⟩
      obtain ⟨i, hi, rfl⟩ := mem_slots.mp he
      exact ⟨name, i, hi, hen, rfl⟩
    · rintro ⟨name, i, hi, hen, rfl⟩
      exact ⟨name, wgSlot i, ⟨mem_slots.mpr ⟨i, hi, rfl⟩, hen⟩, rfl⟩

namespace UpstreamsConfig

variable (u : UpstreamsConfig)

theorem isKeyEnabled_value (up : Upstream) : u.isKeyEnabled up.value = some (u.isEnabled up) := by
  cases up <;> rfl

theorem isKeyEnabled_country (country : Country) :
    u.isKeyEnabled (countryKey country) = some (u.isEnabled .dpn) := by
  have hw : startsWith (countryKey country) wgKeyPrefix = false := by
    simp [startsWith, countryKey, countryKeyPrefix, wgKeyPrefix, List.isPrefixOf]
  have hd : startsWith (countryKey country) Upstream.dpn.value = true := by
    simp [startsWith, countryKey, countryKeyPrefix, Upstream.value, List.isPrefixOf]
  rw [isKeyEnabled, hw, hd]
  rfl

theorem isKeyEnabled_wg (name : WgName) :
    u.isKeyEnabled (wgKey name) = some ((u.wg.get? name).any WgUplink.enabled) := by
  rw [isKeyEnabled, wgKey, startsWith_append, if_pos rfl, removePrefix_append, check_val]
  cases h : u.wg.get? name <;> simp [h]

end UpstreamsConfig

inductive Routed (c : Fields) : String → Prop
  | upstream (up : Upstream) : c.upstreams.isEnabled up = true → Routed c up.value
  | country (country : Country) (i : Nat) : c.ruleCountries[i]? = some country →
      c.upstreams.isEnabled .dpn = true → Routed c (countryKey country)
  | exit (name : WgName) (i : Nat) : c.exitNames[i]? = some name → c.exitEnabled name = true →
      Routed c (wgKey name)

namespace Config

variable {c : Config}

theorem exit_routed {name : WgName} (h : c.upstreams.isKeyEnabled (wgKey name) = some true) :
    Routed c.toFields (wgKey name) := by
  obtain ⟨i, hi⟩ := List.mem_iff_getElem?.mp (wg_key_enabled h)
  rw [UpstreamsConfig.isKeyEnabled_wg, Option.some.injEq] at h
  exact .exit name i hi h

theorem default_routed {routing : RoutingConfig} (hr : c.routing = some routing)
    (hm : routing.mode = .full) : Routed c.toFields routing.defaultUpstream.val := by
  have he := default_enabled hr (by simp [hm])
  have hkey := routing.defaultUpstream.property
  rw [isUplinkKey] at hkey
  split at hkey
  · rename_i hs
    obtain ⟨t, ht⟩ := startsWith_iff.mp hs
    rw [ht, removePrefix_append] at hkey
    rw [ht] at he ⊢
    have hn : c.upstreams.isKeyEnabled (wgKey ⟨t, hkey⟩) = some true := he
    exact exit_routed hn
  · obtain ⟨up, hup⟩ := Option.isSome_iff_exists.mp hkey
    have hv : up.value = routing.defaultUpstream.val := by simpa using List.find?_some hup
    rw [← hv, UpstreamsConfig.isKeyEnabled_value, Option.some.injEq] at he
    rw [← hv]
    exact .upstream up he

theorem channel_routed {item : DomainChannel} (hi : item ∈ c.channels) {key : String}
    (hk : item.key = some key) : Routed c.toFields key := by
  obtain ⟨via, country, uplink, hc⟩ := item
  cases via with
  | vps =>
    obtain rfl : Upstream.vps.value = key := by simpa [DomainChannel.key, ruleUplinks] using hk
    exact .upstream .vps (via_enabled hi rfl)
  | tor =>
    obtain rfl : Upstream.tor.value = key := by simpa [DomainChannel.key, ruleUplinks] using hk
    exact .upstream .tor (via_enabled hi rfl)
  | direct => simp [DomainChannel.key, ruleUplinks] at hk
  | dpn =>
    cases country with
    | none =>
      obtain rfl : Upstream.dpn.value = key := by simpa [DomainChannel.key, ruleUplinks] using hk
      exact .upstream .dpn (via_enabled hi rfl)
    | some country =>
      obtain rfl : countryKey country = key := by simpa [DomainChannel.key] using hk
      obtain ⟨i, hi'⟩ := List.mem_iff_getElem?.mp (Fields.mem_ruleCountries.mpr ⟨_, hi, rfl, rfl⟩)
      exact .country country i hi' (via_enabled hi rfl)
  | wg =>
    cases uplink with
    | none => simp [checkCountryChannel] at hc
    | some name =>
      obtain rfl : wgKey name = key := by simpa [DomainChannel.key] using hk
      exact exit_routed (exit_enabled hi rfl rfl)

theorem wanted_routed {key : String} (h : key ∈ c.wantedUplinks) : Routed c.toFields key := by
  simp only [Fields.wantedUplinks, List.mem_append, Option.mem_toList, List.mem_filterMap] at h
  rcases h with (h | ⟨item, hi, hk⟩) | h
  · rw [Fields.activeUplink] at h
    split at h
    · rename_i hr
      split at h
      · rename_i hm
        cases h
        exact default_routed hr hm
      · cases h
    · cases h
  · exact channel_routed (c.smartChannels_subset hi) hk
  · split at h
    · obtain ⟨d, hd, hp⟩ := List.mem_filterMap.mp h
      rw [Option.map_eq_some_iff] at hp
      obtain ⟨up, hu, rfl⟩ := hp
      refine .upstream up (policy_enabled hd ?_)
      cases hpol : d.policy <;> simp_all [policyUplinks, Fields.policyUplink]
    · cases h

theorem wanted_role {key : String} (h : key ∈ c.wantedUplinks) : c.role ≠ .vps := by
  intro hv
  obtain ⟨hn, hr, -, -⟩ := vps_sections hv
  simp [Fields.wantedUplinks, Fields.activeUplink, Fields.smartChannels, hn, hr] at h

end Config

theorem composeServices_names : (composeServices.map ComposeService.name).Nodup := by decide

theorem composeServices_consumers {s : ComposeService} (hs : s ∈ composeServices)
    (country : Country) : s.name ≠ "myst-consumer-" ++ lower country.val := by
  have h : composeServices.all (fun s => !startsWith s.name "myst-consumer-") = true := by decide
  have hn := List.all_eq_true.mp h s hs
  intro he
  rw [he, startsWith_append] at hn
  cases hn

theorem consumer_ne_exit (country : Country) (name : WgName) :
    "myst-consumer-" ++ lower country.val ≠ wgKey name := by
  intro h
  have h' := congrArg String.toList h
  simp [wgKey, wgKeyPrefix] at h'

theorem index_unique {α : Type} {l : List α} (hl : l.Nodup) {a : α} {i j : Nat}
    (hi : l[i]? = some a) (hj : l[j]? = some a) : i = j := by
  obtain ⟨hlt, hi⟩ := List.getElem?_eq_some_iff.mp hi
  obtain ⟨hlt', hj⟩ := List.getElem?_eq_some_iff.mp hj
  exact (List.Nodup.getElem_inj_iff hl).mp (hi.trans hj.symm)

def Apart (c : Fields) : Prop :=
  ∀ name ∈ c.upstreams.wg.keys, wgKey name ∉ composeServices.map ComposeService.name

theorem Apart.exit {c : Fields} (h : Apart c) {name : WgName} {i : Nat}
    (hi : c.exitNames[i]? = some name) {s : ComposeService} (hs : s ∈ composeServices) :
    s.name ≠ wgKey name := by
  intro he
  refine h name (Fields.mem_exitNames.mp (List.mem_iff_getElem?.mpr ⟨i, hi⟩)) ?_
  exact he ▸ List.mem_map_of_mem hs

theorem project_names {c : Fields} (h : Apart c) {s t : ComposeService}
    (hs : s ∈ composeProject c) (ht : t ∈ composeProject c) (he : t.name = s.name) : t = s := by
  rw [mem_composeProject] at hs ht
  rcases hs with hs | ⟨country, i, hi, rfl⟩ | ⟨name, i, hi, _, rfl⟩
  · rcases ht with ht | ⟨country, j, hj, rfl⟩ | ⟨name, j, hj, _, rfl⟩
    · exact List.inj_on_of_nodup_map composeServices_names ht hs he
    · exact absurd he.symm (composeServices_consumers hs country)
    · exact absurd he.symm (h.exit hj hs)
  · rcases ht with ht | ⟨other, j, hj, rfl⟩ | ⟨name, j, hj, _, rfl⟩
    · exact absurd he (composeServices_consumers ht country)
    · have hc : lower other.val = lower country.val := by
        simpa [countryService, ← String.toList_inj] using he
      obtain rfl := lower_country_injective hc
      rw [index_unique c.ruleCountries_nodup hi hj]
    · exact absurd he.symm (consumer_ne_exit country name)
  · rcases ht with ht | ⟨country, j, hj, rfl⟩ | ⟨other, j, hj, _, rfl⟩
    · exact absurd he (h.exit hi ht)
    · exact absurd he (consumer_ne_exit country name)
    · obtain rfl := wgKey_injective (a := other) he
      rw [index_unique c.exitNames_nodup hi hj]

theorem composeServices_addresses :
    ((composeServices.filter (fun s => s.address.isSome)).map ComposeService.address).Nodup := by
  decide

theorem composeServices_octet {s : ComposeService} (hs : s ∈ composeServices) {n : Nat}
    (ha : s.address = some (upstreamsAddress n)) : n ∈ [10, 20, 30, 60] := by
  have h : composeServices.all (fun s => s.address = none ||
      [10, 20, 30, 60].any (fun n => s.address = some (upstreamsAddress n))) = true := by decide
  have hm := List.all_eq_true.mp h s hs
  rw [ha] at hm
  simp only [reduceCtorEq, decide_false, Bool.false_or, List.any_eq_true, Option.some.injEq,
    decide_eq_true_eq] at hm
  obtain ⟨m, hm, he⟩ := hm
  exact upstreamsAddress_injective he ▸ hm

theorem project_addresses {c : Config} (h : c.upstreams.wg.entries.length ≤ maxWgUplinks)
    {s t : ComposeService} (hs : s ∈ composeProject c.toFields)
    (ht : t ∈ composeProject c.toFields) (hsome : s.address.isSome) (he : t.address = s.address) :
    t = s := by
  have hexit : ∀ {name : WgName} {i : Nat}, c.exitNames[i]? = some name → i < 8 := by
    intro name i hi
    have hlt := (List.getElem?_eq_some_iff.mp hi).1
    rw [Fields.length_exitNames] at hlt
    exact lt_of_lt_of_le hlt h
  have hcountry : ∀ {country : Country} {i : Nat}, c.ruleCountries[i]? = some country → i < 8 :=
    fun hi => country_number hi
  have hbase : ∀ {s : ComposeService}, s ∈ composeServices → ∀ {n : Nat},
      s.address = some (upstreamsAddress n) → n ∈ [10, 20, 30, 60] := composeServices_octet
  rw [mem_composeProject] at hs ht
  rcases hs with hs | ⟨country, i, hi, rfl⟩ | ⟨name, i, hi, _, rfl⟩
  · rcases ht with ht | ⟨country, j, hj, rfl⟩ | ⟨name, j, hj, _, rfl⟩
    · refine List.inj_on_of_nodup_map composeServices_addresses ?_ ?_ he
      · exact List.mem_filter.mpr ⟨ht, by rw [he]; exact hsome⟩
      · exact List.mem_filter.mpr ⟨hs, hsome⟩
    · have hm := hbase hs he.symm
      have hlt := hcountry hj
      simp only [countryGatewayBase, List.mem_cons, List.not_mem_nil, or_false] at hm
      omega
    · have hm := hbase hs he.symm
      have hlt := hexit hj
      simp only [wgGatewayBase, List.mem_cons, List.not_mem_nil, or_false] at hm
      omega
  · rcases ht with ht | ⟨other, j, hj, rfl⟩ | ⟨name, j, hj, _, rfl⟩
    · have hm := hbase ht he
      have hlt := hcountry hi
      simp only [countryGatewayBase, List.mem_cons, List.not_mem_nil, or_false] at hm
      omega
    · have hij := upstreamsAddress_injective (Option.some.inj he)
      obtain rfl : j = i := by omega
      rw [hi, Option.some.injEq] at hj
      rw [hj]
    · have hij := upstreamsAddress_injective (Option.some.inj he)
      have hlt := hcountry hi
      simp only [countryGatewayBase, wgGatewayBase] at hij
      omega
  · rcases ht with ht | ⟨country, j, hj, rfl⟩ | ⟨other, j, hj, _, rfl⟩
    · have hm := hbase ht he
      have hlt := hexit hi
      simp only [wgGatewayBase, List.mem_cons, List.not_mem_nil, or_false] at hm
      omega
    · have hij := upstreamsAddress_injective (Option.some.inj he)
      have hlt := hcountry hj
      simp only [countryGatewayBase, wgGatewayBase] at hij
      omega
    · have hij := upstreamsAddress_injective (Option.some.inj he)
      obtain rfl : j = i := by omega
      rw [hi, Option.some.injEq] at hj
      rw [hj]

namespace Config

variable {c : Config}

theorem mem_composeProfiles (hv : c.role ≠ .vps) {profile : Profile}
    (hp : c.wantsProfile profile = true) : profile ∈ c.composeProfiles := by
  rw [Fields.composeProfiles, if_neg hv, List.mem_filter]
  exact ⟨by cases profile <;> decide, hp⟩

theorem vps_uplink_client (hv : c.role ≠ .vps) (he : c.upstreams.isEnabled .vps = true) :
    c.role = .client := by
  have h := c.role_valid
  have hvps : c.upstreams.vps.enabled = true := he
  cases hr : c.role with
  | vps => exact absurd hr hv
  | client => rfl
  | home => simp [Fields.roleErrors, hr, hvps] at h

theorem active_of_profile (hv : c.role ≠ .vps) {s : ComposeService} {profile : Profile}
    (hs : profile ∈ s.profiles) (hp : c.wantsProfile profile = true) : s.isActive c.toFields = true := by
  rw [ComposeService.isActive, Bool.or_eq_true, List.any_eq_true]
  exact .inr ⟨profile, hs, decide_eq_true (mem_composeProfiles hv hp)⟩

theorem upstream_mem (up : Upstream) : upstreamService up ∈ composeServices := by
  cases up <;> decide

theorem upstream_active (hv : c.role ≠ .vps) {up : Upstream} (he : c.upstreams.isEnabled up = true) :
    (upstreamService up).isActive c.toFields = true := by
  cases up with
  | vps =>
    exact active_of_profile hv (List.mem_singleton.mpr rfl)
      (decide_eq_true (vps_uplink_client hv he))
  | dpn => exact active_of_profile hv (List.mem_singleton.mpr rfl) he
  | tor => exact active_of_profile hv (List.mem_singleton.mpr rfl) he

theorem consumer_required (hv : c.role ≠ .vps) (he : c.upstreams.isEnabled .dpn = true) :
    consumerPassphraseFile ∈ c.requiredSecrets := by
  have hp : Profile.consumer ∈ c.composeProfiles := mem_composeProfiles hv he
  simp [Fields.requiredSecrets, Fields.generatedSecrets, hp, consumerSecrets]

theorem upstream_secrets (hv : c.role ≠ .vps) {up : Upstream}
    (he : c.upstreams.isEnabled up = true) :
    ∀ file ∈ (upstreamService up).secrets, file ∈ c.requiredSecrets := by
  intro file hf
  cases up with
  | vps =>
    obtain rfl := List.mem_singleton.mp hf
    simp [Fields.requiredSecrets, vps_uplink_client hv he]
  | dpn =>
    obtain rfl := List.mem_singleton.mp hf
    exact consumer_required hv he
  | tor => cases hf

theorem exit_profile {name : WgName} {i : Nat} (hi : c.exitNames[i]? = some name) :
    c.wantsProfile .wgUplink = true := by
  have hmem := Fields.mem_exitNames.mp (List.mem_iff_getElem?.mpr ⟨i, hi⟩)
  refine decide_eq_true fun hn => ?_
  simp [Dict.keys, hn] at hmem

theorem routed_live (hv : c.role ≠ .vps) (hx : c.upstreams.wg.entries.length ≤ maxWgUplinks)
    (ha : Apart c.toFields) {key : String} (h : Routed c.toFields key) :
    LiveGateway c.toFields key := by
  cases h with
  | upstream up he =>
    have hp : upstreamService up ∈ composeProject c.toFields :=
      mem_composeProject.mpr (.inl (upstream_mem up))
    have hg : (upstreamService up).address = some (uplinks up).gateway := by cases up <;> rfl
    exact ⟨by rw [UpstreamsConfig.isKeyEnabled_value, he], _, c.uplinkTable_fixed up,
      upstreamService up, hp, by cases up <;> rfl, upstream_active hv he, hg,
      upstream_secrets hv he, fun t ht => project_names ha hp ht,
      fun t ht => project_addresses hx hp ht (by rw [hg]; rfl)⟩
  | country country i hi he =>
    have hp : countryService country i ∈ composeProject c.toFields :=
      mem_composeProject.mpr (.inr (.inl ⟨country, i, hi, rfl⟩))
    have hs : uplinkService (countryKey country) = some (countryService country i).name := by
      rw [uplinkService, countryKey, startsWith_append, if_pos rfl, removePrefix_append]
      rfl
    have hc : (countryService country i).isActive c.toFields = true :=
      upstream_active hv (show c.upstreams.isEnabled .dpn = true from he)
    refine ⟨by rw [UpstreamsConfig.isKeyEnabled_country, he], _, Fields.uplinkTable_country hi,
      countryService country i, hp, hs, hc, rfl, ?_, fun t ht => project_names ha hp ht, fun t ht => project_addresses hx hp ht rfl⟩
    intro file hf
    obtain rfl := List.mem_singleton.mp hf
    have hm : countryPassphraseFile country ∈ c.countrySecrets :=
      List.mem_map_of_mem (List.mem_iff_getElem?.mpr ⟨i, hi⟩)
    simp [Fields.requiredSecrets, hm]
  | exit name i hi he =>
    have hp : exitService name i ∈ composeProject c.toFields :=
      mem_composeProject.mpr (.inr (.inr ⟨name, i, hi, he, rfl⟩))
    have hn : startsWith (wgKey name) countryKeyPrefix = false := by
      simp [startsWith, wgKey, wgKeyPrefix, countryKeyPrefix, List.isPrefixOf]
    have hs : uplinkService (wgKey name) = some (exitService name i).name := by
      rw [uplinkService, hn, wgKey, startsWith_append]
      rfl
    have hk : c.upstreams.isKeyEnabled (wgKey name) = some true := by
      rw [UpstreamsConfig.isKeyEnabled_wg]
      exact congrArg some he
    have hpr : Profile.wgUplink ∈ (exitService name i).profiles := by simp [exitService]
    refine ⟨hk, _, Fields.uplinkTable_wg hi, exitService name i, hp, hs,
      active_of_profile hv hpr (exit_profile hi), rfl, ?_,
      fun t ht => project_names ha hp ht, fun t ht => project_addresses hx hp ht rfl⟩
    intro file hf
    obtain rfl := List.mem_singleton.mp hf
    have hm : wgConfFile name ∈ c.wgUplinkSecrets :=
      List.mem_map_of_mem (List.mem_filter.mpr ⟨List.mem_iff_getElem?.mpr ⟨i, hi⟩, he⟩)
    simp [Fields.requiredSecrets, hm]

theorem wanted_used {key : String} (h : key ∈ c.wantedUplinks) : key ∈ c.usedUplinks := by
  refine List.mem_filter.mpr ⟨?_, decide_eq_true h⟩
  rw [← Dict.get?_isSome_iff]
  cases wanted_routed h with
  | upstream up _ => rw [c.uplinkTable_fixed up]; rfl
  | country country i hi _ => rw [Fields.uplinkTable_country hi]; rfl
  | exit name i hi _ => rw [Fields.uplinkTable_wg hi]; rfl

end Config

theorem used_uplinks_live {c : Config} (hx : c.upstreams.wg.entries.length ≤ maxWgUplinks)
    (ha : Apart c.toFields) : (∀ key ∈ c.wantedUplinks, key ∈ c.usedUplinks) ∧
      ∀ key ∈ c.usedUplinks, LiveGateway c.toFields key := by
  refine ⟨fun key => Config.wanted_used, fun key hk => ?_⟩
  have hw : key ∈ c.wantedUplinks := of_decide_eq_true (List.mem_filter.mp hk).2
  exact Config.routed_live (Config.wanted_role hw) hx ha (Config.wanted_routed hw)

def exitNl : WgName := ⟨"nl", by decide⟩

theorem germany_checked : isCountry "DE" = true := by decide

theorem tv_checked : isDeviceName "tv" = true := by decide

def mixedUplinks : Config where
  role := .client
  network := some sampleNetwork
  routing := some
    { mode := .smart
      defaultUpstream := torKey
      domains := [countryRule siteName ⟨"DE", germany_checked⟩]
      networks := [{ via := .wg, uplink := some exitNl, network := sampleNetwork.lanSubnet }] }
  devices := [{ name := ⟨"tv", tv_checked⟩, ip := some 0xC0A80105#32, policy := .vps }]
  upstreams :=
    { vps := { enabled := true }
      dpn := { enabled := true }
      tor := { enabled := true }
      wg := ⟨[(exitNl, {})], by decide⟩ }
  valid := by decide

theorem mixedUplinks_apart : Apart mixedUplinks.toFields := by
  intro name hn
  obtain rfl : name = exitNl := by simpa [mixedUplinks, Dict.keys] using hn
  decide

theorem mixed_uplinks_live : mixedUplinks.usedUplinks = ["vps", "dpn-de", "wg-nl"] ∧
    ∀ key ∈ ["vps", "dpn-de", "wg-nl"], LiveGateway mixedUplinks.toFields key := by
  have hu : mixedUplinks.usedUplinks = ["vps", "dpn-de", "wg-nl"] := by decide
  have h := used_uplinks_live (c := mixedUplinks) (by decide) mixedUplinks_apart
  exact ⟨hu, fun key hk => h.2 key (hu ▸ hk)⟩

end VibeDPN
