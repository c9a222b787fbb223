import VibeDPN.Lib.Slots
import VibeDPN.Config.Model

namespace VibeDPN

open Text

structure Uplink where
  mark : Nat
  table : Nat
  gateway : String
deriving DecidableEq, Repr

def upstreamsAddress (octet : Nat) : String := "10.77.0." ++ toString octet

def uplinks : Upstream → Uplink
  | .vps => ⟨0x10, 7710, upstreamsAddress 10⟩
  | .dpn => ⟨0x20, 7720, upstreamsAddress 20⟩
  | .tor => ⟨0x60, 7760, upstreamsAddress 60⟩

def maxCountries : Nat := 8
def countryMarkBase : Nat := 0x40
def countryTableBase : Nat := 7740
def countryGatewayBase : Nat := 40

def countrySlot (index : Nat) : Uplink :=
  ⟨countryMarkBase + index, countryTableBase + index, upstreamsAddress (countryGatewayBase + index)⟩

def maxWgUplinks : Nat := 8
def wgMarkBase : Nat := 0x50
def wgTableBase : Nat := 7750
def wgGatewayBase : Nat := 50

def wgSlot (index : Nat) : Uplink :=
  ⟨wgMarkBase + index, wgTableBase + index, upstreamsAddress (wgGatewayBase + index)⟩

def fixedUplinks : List (String × Uplink) :=
  [Upstream.vps, .dpn, .tor].map (fun u => (u.value, uplinks u))

def countrySlots : List Uplink := (List.range maxCountries).map countrySlot

def wgSlots : List Uplink := (List.range maxWgUplinks).map wgSlot

def allSlots : List Uplink := fixedUplinks.map Prod.snd ++ countrySlots ++ wgSlots

def blockMark : Nat := 0x30

def relayAddress : String := upstreamsAddress 30

def countryKeyPrefix : String := "dpn-"

def countryKey (country : Country) : String := countryKeyPrefix ++ lower country.val

def wgKey (name : WgName) : String := wgKeyPrefix ++ name.val

namespace Fields

def ruleCountries (c : Fields) : List Country :=
  ((c.channels.filterMap ruleCountries?).dedup).insertionSort (· ≤ ·)

def countryUplinks (c : Fields) : List (Country × Uplink) :=
  slots c.ruleCountries countrySlot

def exitNames (c : Fields) : List WgName := c.upstreams.wg.keys.insertionSort (· ≤ ·)

def wgUplinks (c : Fields) : List (WgName × Uplink) :=
  slots c.exitNames wgSlot

def uplinkTable (c : Fields) : Dict String Uplink :=
  ((Dict.empty.update fixedUplinks).update
    (c.countryUplinks.map (fun e => (countryKey e.1, e.2)))).update
    (c.wgUplinks.map (fun e => (wgKey e.1, e.2)))

end Fields

def policyUplinks : DevicePolicy → Option Upstream
  | .vps => some .vps
  | .dpn => some .dpn
  | .tor => some .tor
  | .bypass => none
  | .block => none

def ruleUplinks : DomainVia → Option Upstream
  | .vps => some .vps
  | .dpn => some .dpn
  | .tor => some .tor
  | .wg => none
  | .direct => none

def DomainChannel.key (item : DomainChannel) : Option String :=
  match item.via, item.country, item.uplink with
  | .dpn, some country, _ => some (countryKey country)
  | .wg, _, some name => some (wgKey name)
  | via, _, _ => (ruleUplinks via).map Upstream.value

namespace Fields

def activeUplink (c : Fields) : Option String :=
  match c.network, c.routing with
  | some _, some routing => if routing.mode = .full then some routing.defaultUpstream.val else none
  | _, _ => none

def smartChannels (c : Fields) : List DomainChannel :=
  match c.routing with
  | some routing => if routing.mode = .smart then routing.channels else []
  | none => []

def wantedUplinks (c : Fields) : List String :=
  c.activeUplink.toList ++
    c.smartChannels.filterMap DomainChannel.key ++
    (if c.network.isSome then
      c.devices.filterMap (fun d => (policyUplinks d.policy).map Upstream.value)
    else [])

def usedUplinks (c : Fields) : List String :=
  c.uplinkTable.keys.filter (fun key => key ∈ c.wantedUplinks)

def uplinksInUse (c : Fields) : List Uplink := c.usedUplinks.filterMap c.uplinkTable.get?

end Fields

theorem allSlots_marks : (allSlots.map Uplink.mark).Nodup := by decide

theorem allSlots_tables : (allSlots.map Uplink.table).Nodup := by decide

theorem allSlots_gateways : (allSlots.map Uplink.gateway).Nodup := by decide

theorem allSlots_reserved : ∀ u ∈ allSlots, u.mark ≠ blockMark ∧ u.gateway ≠ relayAddress := by
  decide

theorem toNat_lower_upper {c : Char} (h : 65 ≤ c.toNat ∧ c.toNat ≤ 90) :
    (lowerChar c).toNat = c.toNat + 32 := by
  have hd : ∀ i : Fin 26, (lowerChar (Char.ofNat (65 + i.val))).toNat = 65 + i.val + 32 := by decide
  have hc := hd ⟨c.toNat - 65, by omega⟩
  have he : 65 + (c.toNat - 65) = c.toNat := by omega
  simpa only [he, Char.ofNat_toNat] using hc

theorem country_chars (a : Country) : ∀ c ∈ a.val.toList, 65 ≤ c.toNat ∧ c.toNat ≤ 90 := by
  have h := a.property
  simp only [isCountry, Bool.and_eq_true, List.all_eq_true, decide_eq_true_eq] at h
  exact fun c hc => h.2 c hc

theorem lower_country_injective {a b : Country} (h : lower a.val = lower b.val) : a = b := by
  rw [← String.toList_inj, toList_lower, toList_lower] at h
  refine Subtype.ext (String.toList_inj.mp (map_eq_of_injOn ?_ h))
  intro c hc d hd hcd
  have h1 := toNat_lower_upper (country_chars a c hc)
  have h2 := toNat_lower_upper (country_chars b d hd)
  rw [hcd, h2] at h1
  exact Char.toNat_inj.mp (by omega)

theorem countryKey_injective {a b : Country} (h : countryKey a = countryKey b) : a = b := by
  apply lower_country_injective
  simpa [countryKey, ← String.toList_inj] using h

theorem wgKey_injective {a b : WgName} (h : wgKey a = wgKey b) : a = b := by
  apply Subtype.ext
  simpa [wgKey, ← String.toList_inj] using h

theorem countryKey_ne_wgKey (a : Country) (b : WgName) : countryKey a ≠ wgKey b := by
  intro h
  have h' := congrArg String.toList h
  simp [countryKey, wgKey, countryKeyPrefix, wgKeyPrefix] at h'

theorem value_ne_countryKey (u : Upstream) (a : Country) : u.value ≠ countryKey a := by
  intro h
  have h' := congrArg String.toList h
  cases u <;> simp [countryKey, countryKeyPrefix, Upstream.value] at h'

theorem value_ne_wgKey (u : Upstream) (a : WgName) : u.value ≠ wgKey a := by
  intro h
  have h' := congrArg String.toList h
  cases u <;> simp [wgKey, wgKeyPrefix, Upstream.value] at h'

namespace Fields

theorem ruleCountries_nodup (c : Fields) : c.ruleCountries.Nodup :=
  (List.perm_insertionSort _ _).nodup_iff.mpr (List.nodup_dedup _)

theorem mem_ruleCountries {c : Fields} {country : Country} :
    country ∈ c.ruleCountries ↔ ∃ item ∈ c.channels, item.via = .dpn ∧ item.country = some country := by
  rw [ruleCountries, (List.perm_insertionSort _ _).mem_iff, List.mem_dedup, List.mem_filterMap]
  simp [ruleCountries?, ite_eq_iff]

theorem exitNames_nodup (c : Fields) : c.exitNames.Nodup :=
  (List.perm_insertionSort _ _).nodup_iff.mpr c.upstreams.wg.nodup

theorem mem_exitNames {c : Fields} {name : WgName} :
    name ∈ c.exitNames ↔ name ∈ c.upstreams.wg.keys :=
  (List.perm_insertionSort _ _).mem_iff

theorem length_exitNames (c : Fields) : c.exitNames.length = c.upstreams.wg.entries.length := by
  rw [exitNames, (List.perm_insertionSort _ _).length_eq, Dict.keys, List.length_map]

theorem uplinkTable_entries (c : Fields) :
    c.uplinkTable.entries = fixedUplinks ++ c.countryUplinks.map (fun e => (countryKey e.1, e.2)) ++
      c.wgUplinks.map (fun e => (wgKey e.1, e.2)) := by
  have hc : (c.countryUplinks.map (fun e => (countryKey e.1, e.2))).map Prod.fst =
      c.ruleCountries.map countryKey := by
    rw [← slots_fst c.ruleCountries countrySlot, List.map_map, List.map_map]
    rfl
  have hw : (c.wgUplinks.map (fun e => (wgKey e.1, e.2))).map Prod.fst = c.exitNames.map wgKey := by
    rw [← slots_fst c.exitNames wgSlot, List.map_map, List.map_map]
    rfl
  have hcn : (c.ruleCountries.map countryKey).Nodup :=
    c.ruleCountries_nodup.map fun _ _ => countryKey_injective
  have hwn : (c.exitNames.map wgKey).Nodup := c.exitNames_nodup.map fun _ _ => wgKey_injective
  have hf : (Dict.empty.update fixedUplinks).entries = fixedUplinks := by decide
  have hfc : ((fixedUplinks ++ c.countryUplinks.map (fun e => (countryKey e.1, e.2))).map
      Prod.fst).Nodup := by
    rw [List.map_append, hc, List.nodup_append]
    refine ⟨by decide, hcn, ?_⟩
    intro k hk j hj
    obtain ⟨cc, -, rfl⟩ := List.mem_map.mp hj
    have hv : ∃ u : Upstream, k = u.value := by
      simp only [fixedUplinks, List.map_map, List.mem_map] at hk
      obtain ⟨u, -, rfl⟩ := hk
      exact ⟨u, rfl⟩
    obtain ⟨u, rfl⟩ := hv
    exact value_ne_countryKey u cc
  have h1 := Dict.entries_update (d := Dict.empty.update fixedUplinks) (by rw [hf]; exact hfc)
  rw [hf] at h1
  rw [uplinkTable, Dict.entries_update, h1]
  rw [h1, List.map_append, hw, List.nodup_append]
  refine ⟨hfc, hwn, ?_⟩
  intro k hk j hj
  obtain ⟨name, -, rfl⟩ := List.mem_map.mp hj
  rw [List.map_append, hc, List.mem_append] at hk
  rcases hk with hk | hk
  · simp only [fixedUplinks, List.map_map, List.mem_map] at hk
    obtain ⟨u, -, rfl⟩ := hk
    exact value_ne_wgKey u name
  · obtain ⟨cc, -, rfl⟩ := List.mem_map.mp hk
    exact countryKey_ne_wgKey cc name

theorem uplinkTable_values (c : Fields) :
    c.uplinkTable.values = fixedUplinks.map Prod.snd ++
      (List.range c.ruleCountries.length).map countrySlot ++
      (List.range c.exitNames.length).map wgSlot := by
  rw [Dict.values, uplinkTable_entries]
  simp [countryUplinks, wgUplinks, Function.comp_def, slots_snd]

theorem uplinksInUse_sublist (c : Fields) : c.uplinksInUse.Sublist c.uplinkTable.values := by
  have h : c.uplinkTable.values = c.uplinkTable.keys.filterMap c.uplinkTable.get? := by
    rw [Dict.values, Dict.keys, List.filterMap_map, ← List.filterMap_eq_map]
    apply List.filterMap_congr
    intro e he
    exact ((c.uplinkTable.get?_eq_some_iff e.1 e.2).mpr he).symm
  rw [h]
  exact List.filter_sublist.filterMap _

theorem mem_uplinksInUse {c : Fields} {key : String} {u : Uplink} (hk : key ∈ c.wantedUplinks)
    (hu : c.uplinkTable.get? key = some u) : u ∈ c.uplinksInUse := by
  refine List.mem_filterMap.mpr ⟨key, List.mem_filter.mpr ⟨?_, by simpa using hk⟩, hu⟩
  rw [← Dict.get?_isSome_iff, hu]
  rfl

theorem uplinkTable_fixed (c : Fields) (u : Upstream) :
    c.uplinkTable.get? u.value = some (uplinks u) := by
  rw [Dict.get?_eq_some_iff, uplinkTable_entries]
  cases u <;> simp [fixedUplinks, Upstream.value]

theorem uplinkTable_country {c : Fields} {country : Country} {i : Nat}
    (h : c.ruleCountries[i]? = some country) :
    c.uplinkTable.get? (countryKey country) = some (countrySlot i) := by
  rw [Dict.get?_eq_some_iff, uplinkTable_entries]
  simp only [List.mem_append, List.mem_map]
  exact .inl (.inr ⟨(country, countrySlot i), mem_slots.mpr ⟨i, h, rfl⟩, rfl⟩)

theorem uplinkTable_wg {c : Fields} {name : WgName} {i : Nat} (h : c.exitNames[i]? = some name) :
    c.uplinkTable.get? (wgKey name) = some (wgSlot i) := by
  rw [Dict.get?_eq_some_iff, uplinkTable_entries]
  simp only [List.mem_append, List.mem_map]
  exact .inr ⟨(name, wgSlot i), mem_slots.mpr ⟨i, h, rfl⟩, rfl⟩

end Fields

end VibeDPN
