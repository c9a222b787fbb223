import VibeDPN.Engine.Rules

namespace VibeDPN

structure NumberingSound (c : Config) : Prop where
  marks : (c.uplinkTable.values.map Uplink.mark).Nodup
  tables : (c.uplinkTable.values.map Uplink.table).Nodup
  gateways : (c.uplinkTable.values.map Uplink.gateway).Nodup
  reserved : ∀ u ∈ c.uplinkTable.values, u.mark ≠ blockMark ∧ u.gateway ≠ relayAddress
  slots : ∀ u ∈ c.uplinkTable.values, u ∈ allSlots
  added : ∀ listing, ∀ u ∈ c.uplinksInUse, u ∈ (planRules listing c.uplinksInUse).2 ∨
    ∃ entry ∈ listing, entry.priority = u.table ∧ isExact (some u) entry = true
  removed : ∀ (later : Config) (listing : List IpRule), ∀ u ∈ c.uplinkTable.values,
    (∀ v ∈ later.uplinksInUse, v.table ≠ u.table) → ∀ entry ∈ listing, entry.priority = u.table →
      ruleSelector entry ∈ (planRules listing later.uplinksInUse).1

namespace Fields

theorem ruleCountries_length (c : Config) : c.ruleCountries.length ≤ maxCountries := by
  rw [ruleCountries, (List.perm_insertionSort _ _).length_eq]
  exact c.countries_le

theorem uplinkTable_sublist {c : Config} (h : c.upstreams.wg.entries.length ≤ maxWgUplinks) :
    c.uplinkTable.values.Sublist allSlots := by
  rw [uplinkTable_values]
  have hc : ((List.range c.ruleCountries.length).map countrySlot).Sublist countrySlots :=
    (List.range_sublist.mpr (ruleCountries_length c)).map _
  have hw : ((List.range c.exitNames.length).map wgSlot).Sublist wgSlots :=
    (List.range_sublist.mpr (by rw [length_exitNames]; exact h)).map _
  exact ((List.Sublist.refl _).append hc).append hw

theorem ninth_exit {c : Config} (h : maxWgUplinks < c.upstreams.wg.entries.length) :
    wgSlot maxWgUplinks ∈ c.uplinkTable.values := by
  rw [uplinkTable_values, length_exitNames, List.mem_append]
  exact .inr (List.mem_map.mpr ⟨maxWgUplinks, List.mem_range.mpr h, rfl⟩)

end Fields

theorem planRules_covers {wanted : List Uplink} (hs : wanted.Sublist allSlots)
    (listing : List IpRule) : ∀ u ∈ wanted, u ∈ (planRules listing wanted).2 ∨
      ∃ entry ∈ listing, entry.priority = u.table ∧ isExact (some u) entry = true := by
  intro u hu
  by_cases hx : ∃ entry ∈ listing, entry.priority = u.table ∧ isExact (some u) entry = true
  · exact .inr hx
  · refine .inl (mem_planRules_add.mpr ⟨?_, ?_, ?_⟩)
    · exact mem_slotTables.mpr ⟨u, hs.subset hu, rfl⟩
    · exact byTable_of_nodup (allSlots_tables.sublist (hs.map _)) hu
    · intro entry he hp
      by_contra hn
      exact hx ⟨entry, he, hp, by simpa using hn⟩

theorem numberingSound_of_sublist {c : Config} (hs : c.uplinkTable.values.Sublist allSlots) :
    NumberingSound c where
  marks := allSlots_marks.sublist (hs.map _)
  tables := allSlots_tables.sublist (hs.map _)
  gateways := allSlots_gateways.sublist (hs.map _)
  reserved := fun u hu => allSlots_reserved u (hs.subset hu)
  slots := fun _ hu => hs.subset hu
  added := fun listing => planRules_covers (c.uplinksInUse_sublist.trans hs) listing
  removed := fun later listing u hu hv entry he hp => by
    refine planRules_deletes ?_ ?_ he
    · exact mem_slotTables.mpr ⟨u, hs.subset hu, hp.symm⟩
    · exact fun v hmem => hp ▸ hv v hmem

theorem numberingSound_iff (c : Config) :
    NumberingSound c ↔ c.upstreams.wg.entries.length ≤ maxWgUplinks := by
  constructor
  · intro h
    by_contra hn
    exact absurd (h.slots _ (Fields.ninth_exit (Nat.not_le.mp hn))) (by decide)
  · exact fun h => numberingSound_of_sublist (Fields.uplinkTable_sublist h)

def nineExits : Config where
  role := .home
  network := some sampleNetwork
  routing := some { defaultUpstream := ⟨"wg-a", by decide⟩ }
  upstreams :=
    { wg := ⟨[(⟨"a", by decide⟩, {}), (⟨"b", by decide⟩, {}), (⟨"c", by decide⟩, {}),
        (⟨"d", by decide⟩, {}), (⟨"e", by decide⟩, {}), (⟨"f", by decide⟩, {}),
        (⟨"g", by decide⟩, {}), (⟨"h", by decide⟩, {}), (⟨"i", by decide⟩, {})], by decide⟩ }
  valid := by decide

theorem nine_exits_unsound : ¬ NumberingSound nineExits := by
  intro h
  have hm : wgSlot 8 ∈ nineExits.uplinkTable.values := by decide
  exact absurd (h.slots (wgSlot 8) hm) (by decide)

end VibeDPN
