import VibeDPN.Config.Profiles
import VibeDPN.Engine.Marks
import VibeDPN.Engine.Numbering

namespace VibeDPN

open Text

inductive Owner where
  | country (country : Country)
  | exit (name : WgName)
deriving DecidableEq

def Owner.key : Owner → String
  | .country cc => countryKey cc
  | .exit name => wgKey name

structure Container where
  owner : Owner
  service : String
  address : String
  mount : String
deriving DecidableEq

def renderCountries (c : Fields) : List Container :=
  c.countryUplinks.map (fun e =>
    { owner := .country e.1
      service := "myst-consumer-" ++ lower e.1.val
      address := e.2.gateway
      mount := "./data/myst-consumer-" ++ lower e.1.val ++ ":/var/lib/mysterium-node" })

def Fields.exitEnabled (c : Fields) (name : WgName) : Bool :=
  (c.upstreams.wg.get? name).any WgUplink.enabled

def renderWgUplinks (c : Fields) : List Container :=
  (c.wgUplinks.filter (fun e => c.exitEnabled e.1)).map (fun e =>
    { owner := .exit e.1
      service := "wg-" ++ e.1.val
      address := e.2.gateway
      mount := "./secrets/wg-" ++ e.1.val ++ ".conf:/etc/wireguard/wg0.conf" })

def generated (c : Fields) : List Container := renderCountries c ++ renderWgUplinks c

def tequilapiPort : Nat := 4050

def tequilapiUrl (gateway : String) : String :=
  "http://" ++ gateway ++ ":" ++ toString tequilapiPort

def consumerTequilapi : String := tequilapiUrl "10.77.0.20"

def countryPassphraseFile (country : Country) : String :=
  "myst-consumer-" ++ lower country.val ++ "-passphrase"

structure ConsumerTarget where
  key : String
  tequilapi : String
  passphraseFile : String
  country : Option Country
  wanted : Bool
  repair : String
deriving DecidableEq

def countryTarget (c : Fields) (e : Country × Uplink) : ConsumerTarget :=
  { key := countryKey e.1
    tequilapi := tequilapiUrl e.2.gateway
    passphraseFile := countryPassphraseFile e.1
    country := some e.1
    wanted := countryKey e.1 ∈ c.usedUplinks
    repair := "run \x60vibedpn up\x60: it creates the passphrase of a new country" }

def consumerTargets (c : Fields) : List ConsumerTarget :=
  { key := Upstream.dpn.value
    tequilapi := consumerTequilapi
    passphraseFile := consumerPassphraseFile
    country := c.upstreams.dpn.country
    wanted := Upstream.dpn.value ∈ c.usedUplinks
    repair := "run \x60vibedpn init --force\x60" } :: c.countryUplinks.map (countryTarget c)

-- up is the configuration of the last up, c the one a live edit applied; an uplink outside
-- allSlots has no ip rule, so its traffic would reach no gateway at all
structure NoCrossover (up c : Fields) : Prop where
  routed : ∀ (owner : Owner) (u : Uplink), owner.key ∈ c.usedUplinks →
    c.uplinkTable.get? owner.key = some u →
    u ∈ allSlots ∧ ∀ k ∈ generated up, k.address = u.gateway → k.owner = owner
  driven : ∀ t ∈ consumerTargets c, ∀ k ∈ generated up, t.tequilapi = tequilapiUrl k.address →
    ∃ country, k.owner = .country country ∧ t.country = some country ∧
      t.passphraseFile = countryPassphraseFile country

structure KeepsNumbers (up c : Fields) : Prop where
  countries : Aligned c.ruleCountries up.ruleCountries
  exits : ∀ (i : Nat) (name : WgName), c.exitNames[i]? = some name → wgKey name ∈ c.usedUplinks →
    i < maxWgUplinks ∧ ∀ old, up.exitNames[i]? = some old → up.exitEnabled old = true → old = name

theorem upstreamsAddress_injective {a b : Nat} (h : upstreamsAddress a = upstreamsAddress b) :
    a = b := by
  have hd : (toString a).toList = (toString b).toList := by
    simpa [upstreamsAddress, ← String.toList_inj] using h
  simp only [Nat.toString_eq_ofList_toDigits, String.toList_ofList] at hd
  rw [← Nat.ofDigitChars_toDigits (b := 10) (n := a) (by omega) (by omega), hd,
    Nat.ofDigitChars_toDigits (by omega) (by omega)]

theorem tequilapiUrl_injective {a b : String} (h : tequilapiUrl a = tequilapiUrl b) : a = b := by
  simpa [tequilapiUrl, ← String.toList_inj] using h

theorem mem_generated {c : Fields} {k : Container} (h : k ∈ generated c) :
    (∃ country i, k.owner = .country country ∧ c.ruleCountries[i]? = some country ∧
      k.address = upstreamsAddress (countryGatewayBase + i)) ∨
    ∃ name i, k.owner = .exit name ∧ c.exitNames[i]? = some name ∧ c.exitEnabled name = true ∧
      k.address = upstreamsAddress (wgGatewayBase + i) := by
  rcases List.mem_append.mp h with h | h
  · obtain ⟨⟨country, u⟩, he, rfl⟩ := List.mem_map.mp h
    obtain ⟨i, hi, rfl⟩ := mem_slots.mp he
    exact .inl ⟨country, i, rfl, hi, rfl⟩
  · obtain ⟨⟨name, u⟩, he, rfl⟩ := List.mem_map.mp h
    obtain ⟨he, hen⟩ := List.mem_filter.mp he
    obtain ⟨i, hi, rfl⟩ := mem_slots.mp he
    exact .inr ⟨name, i, rfl, hi, hen, rfl⟩

theorem country_generated {c : Fields} {country : Country} {i : Nat}
    (h : c.ruleCountries[i]? = some country) : ∃ k ∈ generated c, k.owner = .country country ∧
      k.address = upstreamsAddress (countryGatewayBase + i) :=
  ⟨_, List.mem_append_left _ (List.mem_map.mpr ⟨(country, countrySlot i),
    mem_slots.mpr ⟨i, h, rfl⟩, rfl⟩), rfl, rfl⟩

theorem exit_generated {c : Fields} {name : WgName} {i : Nat} (h : c.exitNames[i]? = some name)
    (he : c.exitEnabled name = true) : ∃ k ∈ generated c, k.owner = .exit name ∧
      k.address = upstreamsAddress (wgGatewayBase + i) :=
  ⟨_, List.mem_append_right _ (List.mem_map.mpr ⟨(name, wgSlot i),
    List.mem_filter.mpr ⟨mem_slots.mpr ⟨i, h, rfl⟩, he⟩, rfl⟩), rfl, rfl⟩

theorem mem_consumerTargets {c : Fields} {t : ConsumerTarget} (h : t ∈ consumerTargets c) :
    t.tequilapi = consumerTequilapi ∨ ∃ country i, c.ruleCountries[i]? = some country ∧
      t = countryTarget c (country, countrySlot i) := by
  rcases List.mem_cons.mp h with rfl | h
  · exact .inl rfl
  · obtain ⟨⟨country, u⟩, he, rfl⟩ := List.mem_map.mp h
    obtain ⟨i, hi, rfl⟩ := mem_slots.mp he
    exact .inr ⟨country, i, hi, rfl⟩

theorem country_number {c : Config} {country : Country} {i : Nat}
    (h : c.ruleCountries[i]? = some country) : i < maxCountries :=
  (List.getElem?_eq_some_iff.mp h).1.trans_le (Fields.ruleCountries_length c)

theorem key_country_slot {c : Fields} {country : Country} {u : Uplink}
    (h : c.uplinkTable.get? (countryKey country) = some u) :
    ∃ i, c.ruleCountries[i]? = some country ∧ u = countrySlot i := by
  rw [Dict.get?_eq_some_iff, Fields.uplinkTable_entries] at h
  simp only [List.mem_append, List.mem_map, Prod.mk.injEq] at h
  rcases h with (h | ⟨⟨other, v⟩, he, hk, rfl⟩) | ⟨⟨name, v⟩, -, hk, -⟩
  · simp only [fixedUplinks, List.mem_map, Prod.mk.injEq] at h
    obtain ⟨up, -, hk, -⟩ := h
    exact absurd hk (value_ne_countryKey up country)
  · obtain ⟨i, hi, rfl⟩ := mem_slots.mp he
    exact ⟨i, countryKey_injective hk ▸ hi, rfl⟩
  · exact absurd hk.symm (countryKey_ne_wgKey country name)

theorem key_exit_slot {c : Fields} {name : WgName} {u : Uplink}
    (h : c.uplinkTable.get? (wgKey name) = some u) :
    ∃ i, c.exitNames[i]? = some name ∧ u = wgSlot i := by
  rw [Dict.get?_eq_some_iff, Fields.uplinkTable_entries] at h
  simp only [List.mem_append, List.mem_map, Prod.mk.injEq] at h
  rcases h with (h | ⟨⟨country, v⟩, -, hk, -⟩) | ⟨⟨other, v⟩, he, hk, rfl⟩
  · simp only [fixedUplinks, List.mem_map, Prod.mk.injEq] at h
    obtain ⟨up, -, hk, -⟩ := h
    exact absurd hk (value_ne_wgKey up name)
  · exact absurd hk (countryKey_ne_wgKey country name)
  · obtain ⟨i, hi, rfl⟩ := mem_slots.mp he
    exact ⟨i, wgKey_injective hk ▸ hi, rfl⟩

theorem wgSlot_mem {i : Nat} : wgSlot i ∈ allSlots ↔ i < maxWgUplinks := by
  constructor
  · intro h
    simp only [allSlots, fixedUplinks, countrySlots, wgSlots, List.mem_append, List.mem_map,
      List.mem_range] at h
    rcases h with (⟨e, he, hi⟩ | ⟨j, hj, hi⟩) | ⟨j, hj, hi⟩
    · obtain ⟨up, -, rfl⟩ := he
      have hm := congrArg Uplink.mark hi
      have ht := congrArg Uplink.table hi
      cases up <;> simp only [uplinks, wgSlot, wgMarkBase, wgTableBase] at hm ht <;> omega
    · have hm := congrArg Uplink.mark hi
      simp only [countrySlot, wgSlot, countryMarkBase, wgMarkBase, maxCountries] at hm hj
      omega
    · have hm := congrArg Uplink.mark hi
      simp only [wgSlot, wgMarkBase] at hm
      omega
  · intro h
    exact List.mem_append_right _ (List.mem_map.mpr ⟨i, List.mem_range.mpr h, rfl⟩)

theorem countrySlot_mem {i : Nat} (h : i < maxCountries) : countrySlot i ∈ allSlots :=
  List.mem_append_left _ (List.mem_append_right _
    (List.mem_map.mpr ⟨i, List.mem_range.mpr h, rfl⟩))

theorem at_country_slot {up : Config} {i : Nat} (hi : i < maxCountries) {k : Container}
    (hk : k ∈ generated up.toFields)
    (ha : k.address = upstreamsAddress (countryGatewayBase + i)) :
    ∃ country, k.owner = .country country ∧ up.ruleCountries[i]? = some country := by
  rcases mem_generated hk with ⟨country, j, ho, hj, hja⟩ | ⟨name, j, -, -, -, hja⟩
  · have hij := upstreamsAddress_injective (ha.symm.trans hja)
    obtain rfl : i = j := by omega
    exact ⟨country, ho, hj⟩
  · have hij := upstreamsAddress_injective (ha.symm.trans hja)
    simp only [countryGatewayBase, wgGatewayBase, maxCountries] at hij hi
    omega

theorem at_wg_slot {up : Config} {i : Nat} {k : Container} (hk : k ∈ generated up.toFields)
    (ha : k.address = upstreamsAddress (wgGatewayBase + i)) :
    ∃ name, k.owner = .exit name ∧ up.exitNames[i]? = some name ∧ up.exitEnabled name = true := by
  rcases mem_generated hk with ⟨country, j, -, hj, hja⟩ | ⟨name, j, ho, hj, he, hja⟩
  · have hij := upstreamsAddress_injective (ha.symm.trans hja)
    have hlt := country_number hj
    simp only [countryGatewayBase, wgGatewayBase, maxCountries] at hij hlt
    omega
  · have hij := upstreamsAddress_injective (ha.symm.trans hja)
    obtain rfl : i = j := by omega
    exact ⟨name, ho, hj, he⟩

theorem noCrossover_of_keeps {up c : Config} (h : KeepsNumbers up.toFields c.toFields) :
    NoCrossover up.toFields c.toFields where
  routed := fun owner u hused hu => by
    cases owner with
    | country country =>
      obtain ⟨i, hi, rfl⟩ := key_country_slot hu
      have hlt := country_number hi
      refine ⟨countrySlot_mem hlt, fun k hk ha => ?_⟩
      obtain ⟨old, ho, hold⟩ := at_country_slot hlt hk ha
      rw [ho, h.countries i country old hi hold]
    | exit name =>
      obtain ⟨i, hi, rfl⟩ := key_exit_slot hu
      obtain ⟨hlt, hold⟩ := h.exits i name hi hused
      refine ⟨wgSlot_mem.mpr hlt, fun k hk ha => ?_⟩
      obtain ⟨old, ho, hio, he⟩ := at_wg_slot hk ha
      rw [ho, hold old hio he]
  driven := fun t ht k hk ha => by
    rcases mem_consumerTargets ht with hmain | ⟨country, i, hi, rfl⟩
    · have hmain' : k.address = upstreamsAddress 20 :=
        (tequilapiUrl_injective (hmain.symm.trans ha)).symm
      rcases mem_generated hk with ⟨_, j, -, -, hja⟩ | ⟨_, j, -, -, -, hja⟩
      · have hij := upstreamsAddress_injective (hmain'.symm.trans hja)
        simp only [countryGatewayBase] at hij
        omega
      · have hij := upstreamsAddress_injective (hmain'.symm.trans hja)
        simp only [wgGatewayBase] at hij
        omega
    · obtain ⟨old, ho, hold⟩ := at_country_slot (country_number hi) hk
        (tequilapiUrl_injective ha).symm
      obtain rfl := h.countries i country old hi hold
      exact ⟨country, ho, rfl, rfl⟩

theorem keeps_of_noCrossover {up c : Config} (h : NoCrossover up.toFields c.toFields) :
    KeepsNumbers up.toFields c.toFields where
  countries := fun i country old hi hold => by
    obtain ⟨k, hk, ho, ha⟩ := country_generated hold
    have ht : countryTarget c.toFields (country, countrySlot i) ∈ consumerTargets c.toFields :=
      List.mem_cons_of_mem _ (List.mem_map.mpr ⟨_, mem_slots.mpr ⟨i, hi, rfl⟩, rfl⟩)
    obtain ⟨found, hf, hc, -⟩ := h.driven _ ht k hk (by rw [ha]; rfl)
    rw [ho, Owner.country.injEq] at hf
    rw [hf]
    exact Option.some.inj hc
  exits := fun i name hi hused => by
    obtain ⟨hslot, hk⟩ := h.routed (.exit name) (wgSlot i) hused (Fields.uplinkTable_wg hi)
    refine ⟨wgSlot_mem.mp hslot, fun old hold he => ?_⟩
    obtain ⟨k, hkg, ho, ha⟩ := exit_generated hold he
    have := hk k hkg ha
    rw [ho, Owner.exit.injEq] at this
    exact this

-- the configurations the live edits after an up apply, each with the network of the running one
def LiveEdit (before after : Config) : Prop :=
  after.network = before.network ∧ ∀ routing ∈ after.routing, routing.failopen = false

structure LiveRun (up : Config) where
  configs : List Config
  edits : (up :: configs).IsChain LiveEdit

theorem live_edits_iff {up : Config} (run : LiveRun up) :
    (∀ c ∈ run.configs, NoCrossover up.toFields c.toFields) ↔
      ∀ c ∈ run.configs, KeepsNumbers up.toFields c.toFields :=
  ⟨fun h c hc => keeps_of_noCrossover (h c hc), fun h c hc => noCrossover_of_keeps (h c hc)⟩

def countryRule (domain : DomainName) (country : Country) : DomainRule :=
  { domain, via := .dpn, country := some country, checked := by rfl }

def oneCountry : Config where
  role := .home
  network := some sampleNetwork
  routing := some
    { mode := .smart
      defaultUpstream := dpnKey
      domains := [countryRule ⟨"example.com", by decide⟩ ⟨"US", by decide⟩] }
  upstreams := { dpn := { enabled := true } }
  valid := by decide

-- the new country sorts before the one that has a container
def twoCountries : Config where
  role := .home
  network := some sampleNetwork
  routing := some
    { mode := .smart
      defaultUpstream := dpnKey
      domains := [countryRule ⟨"example.com", by decide⟩ ⟨"US", by decide⟩,
        countryRule ⟨"example.org", by decide⟩ ⟨"DE", by decide⟩] }
  upstreams := { dpn := { enabled := true } }
  valid := by decide

def addCountry : LiveRun oneCountry where
  configs := [twoCountries]
  edits := by
    rw [List.isChain_pair]
    exact ⟨rfl, by decide⟩

theorem added_country_crosses :
    ¬ ∀ c ∈ addCountry.configs, NoCrossover oneCountry.toFields c.toFields := by
  intro h
  have hk := (keeps_of_noCrossover (h twoCountries (by simp [addCountry]))).countries
  rw [aligned_iff_agree] at hk
  exact absurd hk (by decide)

end VibeDPN
