import VibeDPN.Engine.Marks

namespace VibeDPN

open Text Inet

def RouterRuleset.setNames (rs : RouterRuleset) : List String :=
  rs.sets.map DeviceSet.name ++ rs.smartSets ++ rs.networkSets.map NetworkSet.name

structure DistinctSets (c : Fields) (rs : RouterRuleset) : Prop where
  names : rs.setNames.Nodup
  channels : ∀ a ∈ c.channels, ∀ b ∈ c.channels, channelSet a = channelSet b ↔
    (a.via, a.country, a.uplink) = (b.via, b.country, b.uplink)

-- a network rule of one exit, and a channel through the exit named after it and the suffix
def Fields.SuffixExits (c : Fields) : Prop :=
  ∃ rule ∈ c.smartRules, ∃ item ∈ c.channels, ∃ n m : WgName,
    rule.uplink = some n ∧ item.uplink = some m ∧ m.val = n.val ++ "-net"

theorem wgName_chars (n : WgName) : ∀ c ∈ n.val.toList, isLabelChar c = true := by
  have h := n.property
  simp only [isWgName, Bool.and_eq_true, List.all_eq_true] at h
  exact h.1.1.2

theorem toList_replaceChar (a b : Char) (s : String) :
    (replaceChar a b s).toList = s.toList.map (fun c => if c = a then b else c) := by
  simp [replaceChar]

theorem replaceChar_append (a b : Char) (s t : String) :
    replaceChar a b (s ++ t) = replaceChar a b s ++ replaceChar a b t := by
  rw [← String.toList_inj]
  simp [toList_replaceChar]

-- a name holds no '_' itself
theorem replaceChar_injective {s t : String} (hs : ∀ c ∈ s.toList, isLabelChar c = true)
    (ht : ∀ c ∈ t.toList, isLabelChar c = true)
    (h : replaceChar '-' '_' s = replaceChar '-' '_' t) : s = t := by
  have hu : isLabelChar '_' = false := by decide
  rw [← String.toList_inj, toList_replaceChar, toList_replaceChar] at h
  refine String.toList_inj.mp (map_eq_of_injOn ?_ h)
  intro c hc d hd hcd
  have hc' : c ≠ '_' := fun he => by simp [he ▸ hs c hc] at hu
  have hd' : d ≠ '_' := fun he => by simp [he ▸ ht d hd] at hu
  split at hcd
  · rename_i h1
    split at hcd
    · rename_i h2
      rw [h1, h2]
    · exact absurd hcd.symm hd'
  · split at hcd
    · exact absurd hcd hc'
    · exact hcd

theorem suffix_name {n m : WgName} : replaceChar '-' '_' m.val =
    replaceChar '-' '_' n.val ++ networkSetSuffix ↔ m.val = n.val ++ "-net" := by
  have hs : networkSetSuffix = replaceChar '-' '_' "-net" := by decide
  rw [hs, ← replaceChar_append]
  constructor
  · refine replaceChar_injective (wgName_chars m) fun c hc => ?_
    rw [String.toList_append, List.mem_append] at hc
    rcases hc with hc | hc
    · exact wgName_chars n c hc
    · have hn : "-net".toList.all isLabelChar = true := by decide
      exact List.all_eq_true.mp hn c hc
  · intro h
    rw [h]

theorem DomainChannel.forms (item : DomainChannel) :
    (item.via = .dpn ∧ item.uplink = none) ∨
      (∃ n, item.via = .wg ∧ item.country = none ∧ item.uplink = some n) ∨
      ((item.via = .vps ∨ item.via = .tor ∨ item.via = .direct) ∧ item.country = none ∧
        item.uplink = none) := by
  obtain ⟨via, country, uplink, h⟩ := item
  revert h
  cases via <;> cases country <;> cases uplink <;> simp [checkCountryChannel]

def countryText (country : Option Country) : String :=
  lower ((country.map Subtype.val).getD "any")

theorem countryText_length (country : Option Country) :
    (countryText country).toList.length = if country.isSome then 2 else 3 := by
  cases country with
  | none => decide
  | some cc =>
    have h := cc.property
    simp only [isCountry, Bool.and_eq_true, decide_eq_true_eq] at h
    simp [countryText, h.1]

theorem countryText_injective {a b : Option Country} (h : countryText a = countryText b) :
    a = b := by
  have hl := congrArg (fun s => s.toList.length) h
  simp only [countryText_length] at hl
  cases a with
  | none =>
    cases b with
    | none => rfl
    | some cc => simp at hl
  | some cc =>
    cases b with
    | none => simp at hl
    | some dd => exact congrArg some (lower_country_injective h)

def channelTail (item : DomainChannel) : List Char :=
  match item.via with
  | .dpn => "dpn_".toList ++ (countryText item.country).toList
  | .wg => "wg_".toList ++ (replaceChar '-' '_' ((item.uplink.map Subtype.val).getD "")).toList
  | via => via.value.toList

theorem channelSet_toList (item : DomainChannel) :
    (channelSet item).toList = "smart_".toList ++ channelTail item := by
  rw [channelSet, channelTail]
  cases item.via <;> simp [directSet, DomainVia.value, countryText]

theorem channelSet_inj {a b : DomainChannel} :
    channelSet a = channelSet b ↔ (a.via, a.country, a.uplink) = (b.via, b.country, b.uplink) := by
  constructor
  · intro h
    rw [← String.toList_inj, channelSet_toList, channelSet_toList, List.append_cancel_left_eq,
      channelTail, channelTail] at h
    rcases a.forms with ⟨ha, hau⟩ | ⟨n, ha, hac, hau⟩ | ⟨ha | ha | ha, hac, hau⟩ <;>
      rcases b.forms with ⟨hb, hbu⟩ | ⟨m, hb, hbc, hbu⟩ | ⟨hb | hb | hb, hbc, hbu⟩ <;>
      simp_all [DomainVia.value]
    · exact countryText_injective (String.toList_inj.mp (by simpa using h))
    · exact Subtype.ext (replaceChar_injective (wgName_chars n) (wgName_chars m)
        (String.toList_inj.mp h))
  · intro h
    simp only [Prod.mk.injEq] at h
    rw [channelSet, channelSet, h.1, h.2.1, h.2.2]

theorem channelSet_suffix {a b : DomainChannel} :
    channelSet a = channelSet b ++ networkSetSuffix ↔
      ∃ n m : WgName, b.uplink = some n ∧ a.uplink = some m ∧ m.val = n.val ++ "-net" := by
  have hiff : channelSet a = channelSet b ++ networkSetSuffix ↔
      channelTail a = channelTail b ++ networkSetSuffix.toList := by
    rw [← String.toList_inj, String.toList_append, channelSet_toList, channelSet_toList,
      List.append_assoc, List.append_cancel_left_eq]
  have hlen (item : DomainChannel) := countryText_length item.country
  rw [hiff, channelTail, channelTail]
  rcases a.forms with ⟨ha, hau⟩ | ⟨m, ha, hac, hau⟩ | ⟨ha | ha | ha, hac, hau⟩ <;>
    rcases b.forms with ⟨hb, hbu⟩ | ⟨n, hb, hbc, hbu⟩ | ⟨hb | hb | hb, hbc, hbu⟩ <;>
    simp [ha, hb, hau, hbu, DomainVia.value, networkSetSuffix]
  · intro h
    have hl := congrArg List.length h
    rw [List.length_append, hlen, hlen] at hl
    split at hl <;> split at hl <;> simp at hl
  · rw [← suffix_name, ← String.toList_inj, String.toList_append]
    rfl

theorem addNetwork_eq (d : Dict String NetworkSet) (set : NetworkSet) :
    ∃ elements, addNetwork d set = d.set set.name { set with elements := elements } := by
  rw [addNetwork]
  split
  · exact ⟨_, rfl⟩
  · exact ⟨set.elements, rfl⟩

theorem named_addNetworks {d : Dict String NetworkSet} (h : ∀ e ∈ d.entries, e.2.name = e.1)
    (sets : List NetworkSet) : ∀ e ∈ (sets.foldl addNetwork d).entries, e.2.name = e.1 := by
  induction sets generalizing d with
  | nil => exact h
  | cons set sets ih =>
    apply ih
    obtain ⟨elements, hd⟩ := addNetwork_eq d set
    rw [hd]
    intro e he
    rcases Dict.mem_set he with he | rfl
    · exact h e he
    · rfl

theorem keys_addNetworks (d : Dict String NetworkSet) (sets : List NetworkSet) (name : String) :
    name ∈ (sets.foldl addNetwork d).keys ↔ name ∈ d.keys ∨ name ∈ sets.map NetworkSet.name := by
  induction sets generalizing d with
  | nil => simp
  | cons set sets ih =>
    obtain ⟨elements, hd⟩ := addNetwork_eq d set
    rw [List.foldl_cons, ih, hd, Dict.mem_keys_set, List.map_cons, List.mem_cons, ← or_assoc]
    exact or_congr_left or_comm

namespace Fields

theorem smartNetworks_names {c : Fields} {nets : List NetworkSet} (h : c.smartNetworks = .ok nets) :
    (nets.map NetworkSet.name).Nodup ∧ ∀ name, name ∈ nets.map NetworkSet.name ↔
      ∃ rule ∈ c.smartRules, name = channelSet rule.toDomainChannel ++ networkSetSuffix := by
  simp only [smartNetworks, bind, Except.bind, pure, Except.pure] at h
  split at h
  · simp at h
  · rename_i items hitems
    simp only [Except.ok.injEq] at h
    have hnames : items.map NetworkSet.name = c.smartRules.map fun rule =>
        channelSet rule.toDomainChannel ++ networkSetSuffix := by
      refine mapM_map (fun rule set hset => ?_) hitems
      split at hset
      · simp at hset
      · simp only [Except.ok.injEq] at hset
        rw [← hset]
    have hnamed : ∀ e ∈ (items.foldl addNetwork Dict.empty).entries, e.2.name = e.1 :=
      named_addNetworks (by simp [Dict.empty]) items
    have hperm : (nets.map NetworkSet.name).Perm (items.foldl addNetwork Dict.empty).keys := by
      rw [← h]
      refine ((List.perm_insertionSort _ _).map _).trans (List.Perm.of_eq ?_)
      rw [List.map_map, Dict.values, List.map_map, Dict.keys]
      exact List.map_congr_left hnamed
    refine ⟨hperm.nodup_iff.mpr (Dict.nodup _), fun name => ?_⟩
    rw [hperm.mem_iff, keys_addNetworks, hnames]
    simp [Dict.empty, Dict.keys, eq_comm]

theorem mem_smartSetNames {c : Fields} {name : String} :
    name ∈ c.smartSetNames ↔ ∃ item ∈ c.channels, name = channelSet item := by
  rw [smartSetNames, (List.perm_insertionSort _ _).mem_iff, List.mem_dedup, List.mem_map]
  simp only [eq_comm]

theorem smartSetNames_nodup (c : Fields) : c.smartSetNames.Nodup :=
  (List.perm_insertionSort _ _).nodup_iff.mpr (List.nodup_dedup _)

theorem deviceSets_names (c : Fields) : c.deviceSets.map DeviceSet.name =
    DevicePolicy.all.flatMap fun policy => [macSetName policy.value, ipSetName policy.value] := by
  rw [deviceSets, List.map_flatMap]
  rfl

theorem deviceSet_not_channel {c : Fields} {name : String} (h : name ∈ c.deviceSets.map DeviceSet.name)
    (item : DomainChannel) (suffix : String) : name ≠ channelSet item ++ suffix := by
  rw [deviceSets_names] at h
  simp only [DevicePolicy.all, List.flatMap_cons, List.flatMap_nil, List.append_nil,
    List.mem_append, List.mem_cons, List.not_mem_nil, or_false] at h
  intro he
  have hhead : name.toList.head? = some 's' := by
    rw [he, String.toList_append, channelSet_toList]
    rfl
  rcases h with (rfl | rfl) | (rfl | rfl) | (rfl | rfl) | (rfl | rfl) | rfl | rfl <;>
    simp [macSetName, ipSetName] at hhead

end Fields

theorem set_names_iff {c : Config} {network : NetworkConfig} (hn : c.network = some network) :
    ∃ rs, routerRuleset c.toFields = .ok (some rs) ∧
      (DistinctSets c.toFields rs ↔ ¬ c.SuffixExits) := by
  obtain ⟨rs, hrs⟩ := c.routerRuleset_total (by simp [hn])
  refine ⟨rs, hrs, ?_⟩
  obtain ⟨_, hsets, hsmart, marks, nets, mode, _, hnets, _, hnet, _⟩ := rendered_of_ok hrs
  obtain ⟨hnodup, hmem⟩ := Fields.smartNetworks_names hnets
  have hnames : rs.setNames = c.deviceSets.map DeviceSet.name ++ c.smartSetNames ++
      nets.map NetworkSet.name := by
    rw [RouterRuleset.setNames, hsets, hsmart, hnet]
  constructor
  · rintro ⟨hdistinct, _⟩ ⟨rule, hr, item, hi, n, m, hru, hiu, hm⟩
    rw [hnames, List.nodup_append] at hdistinct
    have hsame := channelSet_suffix.mpr ⟨n, m, hru, hiu, hm⟩
    refine hdistinct.2.2 (channelSet item) ?_ _ ?_ hsame
    · exact List.mem_append_right _ (Fields.mem_smartSetNames.mpr ⟨item, hi, rfl⟩)
    · exact (hmem _).mpr ⟨rule, hr, rfl⟩
  · intro hs
    refine ⟨?_, fun a _ b _ => channelSet_inj⟩
    rw [hnames, List.nodup_append, List.nodup_append]
    refine ⟨⟨?_, c.smartSetNames_nodup, ?_⟩, hnodup, ?_⟩
    · rw [Fields.deviceSets_names]
      decide
    · intro a ha b hb
      obtain ⟨item, _, rfl⟩ := Fields.mem_smartSetNames.mp hb
      simpa using Fields.deviceSet_not_channel ha item ""
    · intro a ha b hb
      obtain ⟨rule, hr, rfl⟩ := (hmem b).mp hb
      rcases List.mem_append.mp ha with ha | ha
      · exact Fields.deviceSet_not_channel ha _ _
      · obtain ⟨item, hi, rfl⟩ := Fields.mem_smartSetNames.mp ha
        intro he
        obtain ⟨n, m, hru, hiu, hm⟩ := channelSet_suffix.mp he
        exact hs ⟨rule, hr, item, hi, n, m, hru, hiu, hm⟩

theorem exitA_checked : isWgName "a" = true := by decide

def exitA : WgName := ⟨"a", exitA_checked⟩

def exitANet : WgName := ⟨"a-net", by decide⟩

def exitRule : DomainRule := { via := .wg, uplink := some exitANet, domain := siteName }

def exitUpstreams : UpstreamsConfig where
  tor := { enabled := true }
  wg := ⟨[(exitA, {}), (exitANet, {})], by decide⟩

def directNetwork : Config where
  role := .home
  network := some sampleNetwork
  routing := some
    { mode := .smart
      defaultUpstream := torKey
      domains := [exitRule]
      networks := [{ via := .direct, network := sampleNetwork.lanSubnet }] }
  upstreams := exitUpstreams
  valid := by decide

theorem direct_network_distinct : ∃ rs, routerRuleset directNetwork.toFields = .ok (some rs) ∧
    DistinctSets directNetwork.toFields rs := by
  obtain ⟨rs, hrs, hiff⟩ := set_names_iff (c := directNetwork) rfl
  refine ⟨rs, hrs, hiff.mpr ?_⟩
  rintro ⟨rule, hr, _, _, n, _, hn, _⟩
  have hrules : directNetwork.toFields.smartRules =
    [{ via := .direct, network := sampleNetwork.lanSubnet }] := rfl
  rw [hrules, List.mem_singleton] at hr
  subst hr
  cases hn

def netExits : Config where
  role := .home
  network := some sampleNetwork
  routing := some
    { mode := .smart
      defaultUpstream := torKey
      domains := [exitRule]
      networks := [{ via := .wg, uplink := some exitA, network := sampleNetwork.lanSubnet }] }
  upstreams := exitUpstreams
  valid := by decide

theorem net_exits_clash :
    ∃ rs, routerRuleset netExits.toFields = .ok (some rs) ∧ ¬ DistinctSets netExits.toFields rs := by
  refine ⟨_, rfl, fun h => ?_⟩
  have hnames := h.names
  revert hnames
  decide +kernel

end VibeDPN
