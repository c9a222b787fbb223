import VibeDPN.Engine.Ruleset

namespace VibeDPN

open Text

def indexKey (name : String) : String := rstripBy (· = '.') (lower name)

abbrev RuleIndex := Dict String String

namespace RuleIndex

def add (index : RuleIndex) (name set : String) : RuleIndex := index.set (indexKey name) set

def remove (index : RuleIndex) (name : String) : RuleIndex := index.erase (indexKey name)

def matchLabels (index : RuleIndex) : List String → Option String
  | [] => none
  | label :: labels =>
    if labels = [] then none
    else
      match index.get? (join '.' (label :: labels)) with
      | some set => some set
      | none => index.matchLabels labels

-- the longest suffix wins; a single label is never looked up
def matchName (index : RuleIndex) (qname : String) : Option String :=
  index.matchLabels (split '.' (indexKey qname))

end RuleIndex

abbrev FetchedLists := Dict String (List DomainName)

def fetched (lists : FetchedLists) (url : ListUrl) : List DomainName := (lists.get? url.val).getD []

def listEntries (routing : RoutingConfig) (lists : FetchedLists) : List (String × String) :=
  routing.lists.flatMap (fun item =>
    (fetched lists item.url).map (fun name => (name.val, channelSet item.toDomainChannel)))

def ruleEntries (routing : RoutingConfig) : List (String × String) :=
  routing.domains.flatMap (fun rule =>
    rule.names.map (fun name => (name.val, channelSet rule.toDomainChannel)))

def RuleIndex.addAll (index : RuleIndex) (entries : List (String × String)) : RuleIndex :=
  entries.foldl (fun index e => index.add e.1 e.2) index

def RuleIndex.fromConfig (c : Fields) (lists : FetchedLists) : RuleIndex :=
  match c.routing with
  | none => Dict.empty
  | some routing =>
    RuleIndex.addAll (RuleIndex.addAll Dict.empty (listEntries routing lists)) (ruleEntries routing)

def Fields.ruleNames (c : Fields) : List String :=
  match c.routing with
  | none => []
  | some routing => (ruleEntries routing).map Prod.fst

def Fields.listNames (c : Fields) (lists : FetchedLists) : List String :=
  match c.routing with
  | none => []
  | some routing => (listEntries routing lists).map Prod.fst

def Owned (c : Fields) (lists : FetchedLists) (name : String) : Prop :=
  indexKey name ∈ c.ruleNames ∨ indexKey name ∈ c.listNames lists

instance (c : Fields) (lists : FetchedLists) (name : String) : Decidable (Owned c lists name) := by
  unfold Owned
  infer_instance

-- every domain has the channel set of its rule, or else the one of the last list that has it
structure OwnerFirst (c : Fields) (lists : FetchedLists) (index : RuleIndex) : Prop where
  rules : ∀ routing ∈ c.routing, ∀ rule ∈ routing.domains, ∀ name ∈ rule.names,
    index.matchName name.val = some (channelSet rule.toDomainChannel)
  lists : ∀ routing ∈ c.routing, ∀ before item after, routing.lists = before ++ item :: after →
    ∀ name ∈ fetched lists item.url, (∀ later ∈ after, name ∉ fetched lists later.url) →
      (∀ rule ∈ routing.domains, name ∉ rule.names) →
      index.matchName name.val = some (channelSet item.toDomainChannel)

def KeepsOwner (c : Fields) (lists : FetchedLists) (index : RuleIndex) : Prop :=
  ∀ key set, (RuleIndex.fromConfig c lists).get? key = some set → index.get? key = some set

theorem indexKey_domain (name : DomainName) : indexKey name.val = name.val := by
  rw [indexKey, lower_domain, ← String.toList_inj, toList_rstripBy, List.rdropWhile_eq_self_iff]
  intro hne
  simpa using domain_last name.property hne

theorem matchLabels_cons {index : RuleIndex} {label : String} {labels : List String} {set : String}
    (hne : labels ≠ []) (h : index.get? (join '.' (label :: labels)) = some set) :
    index.matchLabels (label :: labels) = some set := by
  rw [RuleIndex.matchLabels, if_neg hne, h]

theorem matchName_of_get {index : RuleIndex} {name set : String}
    (hd : isDomain (indexKey name) = true) (h : index.get? (indexKey name) = some set) :
    index.matchName name = some set := by
  have hl : 2 ≤ (split '.' (indexKey name)).length := by
    simp only [isDomain, Bool.and_eq_true, decide_eq_true_eq] at hd
    simpa [split] using hd.1.2
  rw [RuleIndex.matchName]
  cases hs : split '.' (indexKey name) with
  | nil => simp [hs] at hl
  | cons label labels =>
    have hj : join '.' (label :: labels) = indexKey name := hs ▸ join_split '.' _
    refine matchLabels_cons ?_ (hj ▸ h)
    rintro rfl
    simp [hs] at hl

namespace RuleIndex

theorem addAll_cons (index : RuleIndex) (e : String × String) (entries : List (String × String)) :
    index.addAll (e :: entries) = (index.add e.1 e.2).addAll entries := by
  simp only [addAll, List.foldl_cons]

theorem addAll_domains {index : RuleIndex} {entries : List (String × String)}
    (h : ∀ e ∈ entries, isDomain e.1 = true) : index.addAll entries = index.update entries := by
  induction entries generalizing index with
  | nil => simp only [addAll, Dict.update, List.foldl_nil]
  | cons e entries ih =>
    have he : indexKey e.1 = e.1 := indexKey_domain ⟨e.1, h e (by simp)⟩
    rw [addAll_cons, ih (fun x hx => h x (by simp [hx])), add, he]
    simp only [Dict.update, List.foldl_cons]

end RuleIndex

theorem listEntries_domains {routing : RoutingConfig} {lists : FetchedLists} :
    ∀ e ∈ listEntries routing lists, isDomain e.1 = true := by
  intro e he
  simp only [listEntries, List.mem_flatMap, List.mem_map] at he
  obtain ⟨item, -, name, -, rfl⟩ := he
  exact name.property

theorem ruleEntries_domains {routing : RoutingConfig} :
    ∀ e ∈ ruleEntries routing, isDomain e.1 = true := by
  intro e he
  simp only [ruleEntries, List.mem_flatMap, List.mem_map] at he
  obtain ⟨rule, -, name, -, rfl⟩ := he
  exact name.property

theorem fromConfig_eq {c : Fields} {routing : RoutingConfig} (hr : c.routing = some routing)
    (lists : FetchedLists) : RuleIndex.fromConfig c lists =
      (Dict.empty.update (listEntries routing lists)).update (ruleEntries routing) := by
  rw [RuleIndex.fromConfig, hr]
  simp only
  rw [RuleIndex.addAll_domains listEntries_domains, RuleIndex.addAll_domains ruleEntries_domains]

theorem fromConfig_owned {c : Fields} {lists : FetchedLists} {key set : String}
    (h : (RuleIndex.fromConfig c lists).get? key = some set) :
    isDomain key = true ∧ (key ∈ c.ruleNames ∨ key ∈ c.listNames lists) := by
  cases hr : c.routing with
  | none => simp [RuleIndex.fromConfig, hr, Dict.empty, Dict.get?] at h
  | some routing =>
    rw [fromConfig_eq hr, Dict.get?_eq_some_iff] at h
    simp only [Fields.ruleNames, Fields.listNames, hr]
    rcases Dict.mem_update h with h | h
    · rcases Dict.mem_update h with h | h
      · simp [Dict.empty] at h
      · exact ⟨listEntries_domains _ h, .inr (List.mem_map.mpr ⟨_, h, rfl⟩)⟩
    · exact ⟨ruleEntries_domains _ h, .inl (List.mem_map.mpr ⟨_, h, rfl⟩)⟩

theorem mem_ruleEntries {routing : RoutingConfig} {rule : DomainRule}
    (hrule : rule ∈ routing.domains) {name : DomainName} (hn : name ∈ rule.names) :
    (name.val, channelSet rule.toDomainChannel) ∈ ruleEntries routing :=
  List.mem_flatMap.mpr ⟨rule, hrule, List.mem_map.mpr ⟨name, hn, rfl⟩⟩

theorem ruleEntries_nodup {c : Config} {routing : RoutingConfig} (hr : c.routing = some routing) :
    ((ruleEntries routing).map Prod.fst).Nodup := by
  have hk : (ruleEntries routing).map Prod.fst =
      (routing.domains.flatMap DomainRule.names).map Subtype.val := by
    simp [ruleEntries, List.map_flatMap, Function.comp_def]
  rw [hk]
  exact (Config.names_nodup hr).map Subtype.val_injective

theorem fromConfig_rule {c : Config} {routing : RoutingConfig} (hr : c.routing = some routing)
    (lists : FetchedLists) {rule : DomainRule} (hrule : rule ∈ routing.domains) {name : DomainName}
    (hn : name ∈ rule.names) : (RuleIndex.fromConfig c.toFields lists).get? name.val =
      some (channelSet rule.toDomainChannel) := by
  have hm := mem_ruleEntries hrule hn
  rw [fromConfig_eq hr]
  refine Dict.get?_update_of_all (List.mem_map.mpr ⟨_, hm, rfl⟩) (fun e he hk => ?_)
  have heq := List.inj_on_of_nodup_map (ruleEntries_nodup hr) he hm hk
  rw [heq]

theorem listEntries_append (routing : RoutingConfig) (lists : FetchedLists)
    {before after : List DomainList} {item : DomainList}
    (h : routing.lists = before ++ item :: after) : ∃ l r, listEntries routing lists =
      l ++ ((fetched lists item.url).map
        (fun name => (name.val, channelSet item.toDomainChannel)) ++ r) ∧
      ∀ name : DomainName, name.val ∈ r.map Prod.fst → ∃ later ∈ after, name ∈ fetched lists later.url := by
  refine ⟨before.flatMap (fun item => (fetched lists item.url).map
      (fun name => (name.val, channelSet item.toDomainChannel))),
    after.flatMap (fun item => (fetched lists item.url).map
      (fun name => (name.val, channelSet item.toDomainChannel))), ?_, ?_⟩
  · rw [listEntries, h, List.flatMap_append, List.flatMap_cons]
  · intro name hn
    simp only [List.mem_map, List.mem_flatMap] at hn
    obtain ⟨e, ⟨later, hl, other, ho, rfl⟩, hk⟩ := hn
    exact ⟨later, hl, Subtype.ext hk ▸ ho⟩

theorem fromConfig_list {c : Config} {routing : RoutingConfig} (hr : c.routing = some routing)
    (lists : FetchedLists) {before after : List DomainList} {item : DomainList}
    (h : routing.lists = before ++ item :: after) {name : DomainName}
    (hn : name ∈ fetched lists item.url) (hlater : ∀ later ∈ after, name ∉ fetched lists later.url)
    (hrule : ∀ rule ∈ routing.domains, name ∉ rule.names) :
    (RuleIndex.fromConfig c.toFields lists).get? name.val =
      some (channelSet item.toDomainChannel) := by
  have hnr : name.val ∉ (ruleEntries routing).map Prod.fst := by
    intro hm
    simp only [ruleEntries, List.mem_map, List.mem_flatMap] at hm
    obtain ⟨e, ⟨rule, hr', other, ho, rfl⟩, hk⟩ := hm
    exact hrule rule hr' (Subtype.ext hk ▸ ho)
  obtain ⟨l, r, hl, hafter⟩ := listEntries_append routing lists h
  have hnl : name.val ∉ r.map Prod.fst := fun hm => by
    obtain ⟨later, hlm, hlf⟩ := hafter name hm
    exact hlater later hlm hlf
  rw [fromConfig_eq hr, Dict.get?_update_of_not_mem hnr, hl, Dict.update_append,
    Dict.update_append, Dict.get?_update_of_not_mem hnl]
  refine Dict.get?_update_of_all ?_ (fun e he _ => ?_)
  · exact List.mem_map.mpr ⟨_, List.mem_map.mpr ⟨name, hn, rfl⟩, rfl⟩
  · obtain ⟨other, -, rfl⟩ := List.mem_map.mp he
    rfl

theorem matchName_domain {index : RuleIndex} {name : DomainName} {set : String}
    (h : index.get? name.val = some set) : index.matchName name.val = some set := by
  refine matchName_of_get ?_ ?_
  · rw [indexKey_domain]
    exact name.property
  · rw [indexKey_domain]
    exact h

theorem ownerFirst_of_keeps {c : Config} {lists : FetchedLists} {index : RuleIndex}
    (h : KeepsOwner c.toFields lists index) : OwnerFirst c.toFields lists index where
  rules := fun _ hr _ hrule _ hn => matchName_domain (h _ _ (fromConfig_rule hr lists hrule hn))
  lists := fun _ hr _ _ _ hl _ hn hlater hrule =>
    matchName_domain (h _ _ (fromConfig_list hr lists hl hn hlater hrule))

theorem isSome_update {d : RuleIndex} {l : List (String × String)} {key : String} :
    ((d.update l).get? key).isSome ↔ key ∈ l.map Prod.fst ∨ (d.get? key).isSome := by
  induction l generalizing d with
  | nil => simp [Dict.update]
  | cons e l ih =>
    rw [Dict.update_cons, ih, Dict.get?_set, List.map_cons, List.mem_cons]
    by_cases hk : key = e.1
    · simp [hk]
    · simp [hk]

theorem fromConfig_isSome {c : Fields} {lists : FetchedLists} {key : String} :
    ((RuleIndex.fromConfig c lists).get? key).isSome ↔
      key ∈ c.ruleNames ∨ key ∈ c.listNames lists := by
  cases hr : c.routing with
  | none => simp [RuleIndex.fromConfig, Fields.ruleNames, Fields.listNames, hr, Dict.empty, Dict.get?]
  | some routing =>
    rw [fromConfig_eq hr, isSome_update, isSome_update]
    simp [Fields.ruleNames, Fields.listNames, hr, Dict.empty, Dict.get?]

theorem not_owned_iff {c : Fields} {lists : FetchedLists} {name : String} :
    ¬ Owned c lists name ↔ (RuleIndex.fromConfig c lists).get? (indexKey name) = none := by
  rw [← Option.not_isSome_iff_eq_none, fromConfig_isSome]
  rfl

def underLabels (keys : List String) : List String → Bool
  | [] => false
  | label :: labels =>
    labels ≠ [] && (join '.' (label :: labels) ∈ keys || underLabels keys labels)

def isUnder (keys : List String) (name : String) : Bool :=
  underLabels keys (split '.' (indexKey name))

theorem under_of_match {index : RuleIndex} {keys : List String} (hk : ∀ key ∈ index.keys, key ∈ keys)
    {name set : String} (h : index.matchName name = some set) : isUnder keys name = true := by
  rw [RuleIndex.matchName] at h
  rw [isUnder]
  generalize split '.' (indexKey name) = labels at h
  induction labels with
  | nil => simp [RuleIndex.matchLabels] at h
  | cons label labels ih =>
    rw [RuleIndex.matchLabels] at h
    split at h
    · simp at h
    · rename_i hne
      cases hg : index.get? (join '.' (label :: labels)) with
      | some found =>
        have hm : join '.' (label :: labels) ∈ keys :=
          hk _ ((index.get?_isSome_iff _).mp (by simp [hg]))
        simp [underLabels, hne, hm]
      | none =>
        rw [hg] at h
        simp [underLabels, hne, ih h]

theorem keepsOwner_add {c : Fields} {lists : FetchedLists} {index : RuleIndex}
    (h : KeepsOwner c lists index) {name : String} (hn : ¬ Owned c lists name) (set : String) :
    KeepsOwner c lists (index.add name set) := by
  intro key found hk
  have hne : key ≠ indexKey name := by
    rintro rfl
    rw [not_owned_iff.mp hn] at hk
    simp at hk
  rw [RuleIndex.add, Dict.get?_set_ne _ _ hne]
  exact h key found hk

theorem keepsOwner_remove {c : Fields} {lists : FetchedLists} {index : RuleIndex}
    (h : KeepsOwner c lists index) {name : String} (hn : ¬ Owned c lists name) :
    KeepsOwner c lists (index.remove name) := by
  intro key found hk
  have hne : key ≠ indexKey name := by
    rintro rfl
    rw [not_owned_iff.mp hn] at hk
    simp at hk
  rw [RuleIndex.remove, Dict.get?_erase, if_neg hne]
  exact h key found hk

theorem not_owned_of_unmatched {c : Fields} {lists : FetchedLists} {index : RuleIndex}
    (h : KeepsOwner c lists index) {name : String} (hn : index.matchName name = none) :
    ¬ Owned c lists name := by
  rw [not_owned_iff]
  by_contra hs
  obtain ⟨set, hset⟩ := Option.ne_none_iff_exists'.mp hs
  have hm := matchName_of_get (fromConfig_owned hset).1 (h _ _ hset)
  rw [hm] at hn
  simp at hn

theorem mem_keys_add {index : RuleIndex} {name set key : String}
    (h : key ∈ (index.add name set).keys) : key = indexKey name ∨ key ∈ index.keys := by
  rw [← Dict.get?_isSome_iff, RuleIndex.add, Dict.get?_set] at h
  by_cases hk : key = indexKey name
  · exact .inl hk
  · rw [if_neg hk, Dict.get?_isSome_iff] at h
    exact .inr h

end VibeDPN
