import VibeDPN.Api.SmartLoop
import VibeDPN.Lib.Lines
import VibeDPN.Lib.Suffixes

namespace VibeDPN

open Text

namespace Ui

-- toLowerCase on the characters of ASCII
def bare (name : String) : String :=
  removeSuffix (String.ofList (name.toList.map Char.toLower)) "."

def ruleOfLabels (rules : List DomainRule) : List String → Option DomainRule
  | [] => none
  | label :: labels =>
    if labels = [] then none
    else
      let suffix := join '.' (label :: labels)
      match rules.find? fun item =>
        item.domain.val = suffix || (item.also.map Subtype.val).contains suffix with
      | some rule => some rule
      | none => ruleOfLabels rules labels

def ruleOf (name : String) (rules : List DomainRule) : Option DomainRule :=
  ruleOfLabels rules (split '.' (bare name))

end Ui

def Fields.rules (c : Fields) : List DomainRule := (c.routing.map RoutingConfig.domains).getD []

def covers (key : String) (rule : DomainRule) : Bool :=
  rule.domain.val = key || (rule.also.map Subtype.val).contains key

theorem covers_iff {key : String} {rule : DomainRule} :
    covers key rule = true ↔ key ∈ rule.names.map Subtype.val := by
  rw [covers, DomainRule.names, List.map_cons, List.mem_cons, Bool.or_eq_true,
    decide_eq_true_eq, List.contains_iff_mem, eq_comm]

theorem matchLabels_walk (index : RuleIndex) (labels : List String) :
    index.matchLabels labels = suffixWalk (fun suffix => index.get? (join '.' suffix)) labels := by
  refine eq_suffixWalk rfl (fun _ => rfl) (fun label next labels => ?_) labels
  rw [RuleIndex.matchLabels, if_neg (List.cons_ne_nil _ _)]
  cases index.get? (join '.' (label :: next :: labels)) <;> rfl

theorem lookupLabels_walk (names : Dict String (String × Bool)) (labels : List String) :
    lookupLabels names labels = suffixWalk (fun suffix => names.get? (join '.' suffix)) labels := by
  refine eq_suffixWalk rfl (fun _ => rfl) (fun label next labels => ?_) labels
  rw [lookupLabels, if_neg (List.cons_ne_nil _ _)]
  cases names.get? (join '.' (label :: next :: labels)) <;> rfl

theorem ruleOfLabels_walk (rules : List DomainRule) (labels : List String) :
    Ui.ruleOfLabels rules labels =
      suffixWalk (fun suffix => rules.find? (covers (join '.' suffix))) labels := by
  refine eq_suffixWalk rfl (fun _ => rfl) (fun label next labels => ?_) labels
  rw [Ui.ruleOfLabels, if_neg (List.cons_ne_nil _ _)]
  change (match rules.find? (covers (join '.' (label :: next :: labels))) with
    | some rule => some rule
    | none => Ui.ruleOfLabels rules (next :: labels)) = _
  cases rules.find? (covers (join '.' (label :: next :: labels))) <;> rfl

theorem covers_unique {rules : List DomainRule} (hn : (rules.flatMap DomainRule.names).Nodup)
    {rule other : DomainRule} (hr : rule ∈ rules) (ho : other ∈ rules) {name : DomainName}
    (hrule : name ∈ rule.names) (hother : name ∈ other.names) : rule = other := by
  have hsymm : Std.Symm fun a b : DomainRule => List.Disjoint a.names b.names :=
    ⟨fun _ _ h => h.symm⟩
  by_contra hne
  exact (List.nodup_flatMap.mp hn).2.forall hr ho hne hrule hother

theorem get?_rules {Value : Type} {rules : List DomainRule}
    (hn : (rules.flatMap DomainRule.names).Nodup) (f : DomainRule → Value) (key : String) :
    ((Dict.empty : Dict String Value).update (rules.flatMap fun rule =>
      rule.names.map fun name => (name.val, f rule))).get? key =
        (rules.find? (covers key)).map f := by
  cases hf : rules.find? (covers key) with
  | none =>
    rw [List.find?_eq_none] at hf
    refine Dict.get?_update_of_not_mem fun hm => ?_
    obtain ⟨e, he, rfl⟩ := List.mem_map.mp hm
    obtain ⟨rule, hr, hm⟩ := List.mem_flatMap.mp he
    obtain ⟨name, hname, rfl⟩ := List.mem_map.mp hm
    exact hf rule hr (covers_iff.mpr (List.mem_map.mpr ⟨name, hname, rfl⟩))
  | some rule =>
    obtain ⟨name, hname, hkey⟩ := List.mem_map.mp (covers_iff.mp (List.find?_some hf))
    have hrule : rule ∈ rules := List.mem_of_find?_eq_some hf
    refine Dict.get?_update_of_all ?_ fun e he hk => ?_
    · exact List.mem_map.mpr ⟨(name.val, f rule), List.mem_flatMap.mpr
        ⟨rule, hrule, List.mem_map.mpr ⟨name, hname, rfl⟩⟩, hkey⟩
    · obtain ⟨other, ho, hm⟩ := List.mem_flatMap.mp he
      obtain ⟨same, hs, rfl⟩ := List.mem_map.mp hm
      have hsame : same = name := Subtype.ext (hk.trans hkey.symm)
      rw [covers_unique hn ho hrule hs (hsame ▸ hname)]

section Config

variable {c : Config}

theorem rules_nodup : (c.rules.flatMap DomainRule.names).Nodup := by
  rw [Fields.rules]
  cases hr : c.routing with
  | none => simp
  | some routing => exact Config.names_nodup hr

theorem get?_learningNames (key : String) : (learningNames c.toFields).get? key =
    (c.rules.find? (covers key)).map fun rule => (rule.domain.val, rule.learn) := by
  have h := get?_rules (rules_nodup (c := c)) (fun rule => (rule.domain.val, rule.learn)) key
  rw [← h, learningNames, Fields.rules]
  cases c.routing <;> rfl

theorem get?_fromConfig (hl : ∀ routing ∈ c.routing, routing.lists = []) (lists : FetchedLists)
    (key : String) : (RuleIndex.fromConfig c.toFields lists).get? key =
      (c.rules.find? (covers key)).map fun rule => channelSet rule.toDomainChannel := by
  have h := get?_rules (rules_nodup (c := c)) (fun rule => channelSet rule.toDomainChannel) key
  rw [← h, Fields.rules]
  cases hr : c.routing with
  | none => simp [RuleIndex.fromConfig, hr, Dict.update]
  | some routing =>
    rw [fromConfig_eq hr, listEntries, hl routing hr]
    rfl

end Config

theorem rdropWhile_one {mark : Char} {l : List Char} (h : ¬ [mark, mark] <:+ l) :
    l.rdropWhile (· = mark) = if [mark] <:+ l then l.dropLast else l := by
  rcases List.eq_nil_or_concat l with rfl | ⟨m, c, rfl⟩
  · simp
  · rw [List.concat_eq_append] at h ⊢
    by_cases hc : c = mark
    · subst hc
      rw [List.rdropWhile_concat_pos _ _ _ (by simp), if_pos (List.suffix_append m [c]),
        List.dropLast_concat, List.rdropWhile_eq_self_iff]
      intro hm hlast
      refine h ⟨m.dropLast, ?_⟩
      have he : m.getLast hm = c := by simpa using hlast
      rw [← List.dropLast_append_getLast hm, he]
      simp
    · rw [List.rdropWhile_concat_neg _ _ _ (by simp [hc]), if_neg]
      rintro ⟨n, hn⟩
      exact hc (by simpa [eq_comm] using (List.append_inj' hn rfl).2)

theorem lowerChar_dot {c : Char} (h : lowerChar c = '.') : c = '.' := by
  by_cases hk : c = '\u212a'
  · rw [hk] at h
    exact absurd h (by decide)
  · rw [lowerChar, if_neg hk, Char.toLower] at h
    split at h
    next hu =>
      have h1 : 65 ≤ c.toNat := hu.1
      have h2 : c.toNat ≤ 90 := hu.2
      have hn : (c.val + 32).toNat = 46 := congrArg Char.toNat h
      rw [UInt32.toNat_add] at hn
      change (c.toNat + 32) % 2 ^ 32 = 46 at hn
      omega
    · exact h

-- one dot at most: both languages strip the same
theorem bare_eq {name : String} (ha : ∀ c ∈ name.toList, c.toNat < 128)
    (hd : endsWith name ".." = false) : Ui.bare name = indexKey name := by
  have hl : name.toList.map Char.toLower = name.toList.map lowerChar := by
    refine List.map_congr_left fun c hc => ?_
    rw [lowerChar, if_neg]
    rintro rfl
    exact absurd (ha _ hc) (by decide)
  have hdots : ¬ ['.', '.'] <:+ name.toList.map lowerChar := by
    rintro ⟨l, hl⟩
    obtain ⟨m, dots, hm, -, hdots⟩ := List.map_eq_append_iff.mp hl.symm
    obtain ⟨c, rest, rfl, hc, hrest⟩ := List.map_eq_cons_iff.mp hdots
    obtain ⟨d, rest, rfl, hd', hnil⟩ := List.map_eq_cons_iff.mp hrest
    rw [lowerChar_dot hc, lowerChar_dot hd', List.map_eq_nil_iff.mp hnil] at hm
    rw [endsWith, hm] at hd
    exact absurd hd (by simp)
  rw [← String.toList_inj, indexKey, toList_rstripBy, toList_lower, rdropWhile_one hdots, Ui.bare,
    removeSuffix, endsWith, hl, apply_ite String.toList, String.toList_ofList]
  simp only [List.isSuffixOf_iff_suffix, String.toList_ofList, List.dropLast_eq_take]
  rfl

def LongestIndexed (index : RuleIndex) (qname : String) (labels : List String) : Prop :=
  LongestSuffix (fun suffix => index.get? (join '.' suffix)) (split '.' (indexKey qname)) labels

theorem matchName_some_iff {index : RuleIndex} {qname set : String} :
    index.matchName qname = some set ↔
      ∃ labels, LongestIndexed index qname labels ∧ index.get? (join '.' labels) = some set := by
  rw [RuleIndex.matchName, matchLabels_walk, suffixWalk_some_iff]
  rfl

theorem matchName_none_iff {index : RuleIndex} {qname : String} :
    index.matchName qname = none ↔ ∀ labels, labels <:+ split '.' (indexKey qname) →
      2 ≤ labels.length → index.get? (join '.' labels) = none := by
  rw [RuleIndex.matchName, matchLabels_walk, suffixWalk_none_iff]

section Views

variable {c : Config} {qname : String}

theorem ruleOf_view (ha : ∀ ch ∈ qname.toList, ch.toNat < 128) (hd : endsWith qname ".." = false) :
    ruleOf c.toFields qname =
      (Ui.ruleOf qname c.rules).map fun rule => (rule.domain.val, rule.learn) := by
  rw [ruleOf, lookupLabels_walk, Ui.ruleOf, ruleOfLabels_walk, bare_eq ha hd, ← suffixWalk_map]
  simp only [get?_learningNames]

theorem matchName_view (hl : ∀ routing ∈ c.routing, routing.lists = []) (lists : FetchedLists)
    (ha : ∀ ch ∈ qname.toList, ch.toNat < 128) (hd : endsWith qname ".." = false) :
    (RuleIndex.fromConfig c.toFields lists).matchName qname =
      (Ui.ruleOf qname c.rules).map fun rule => channelSet rule.toDomainChannel := by
  rw [RuleIndex.matchName, matchLabels_walk, Ui.ruleOf, ruleOfLabels_walk, bare_eq ha hd,
    ← suffixWalk_map]
  simp only [get?_fromConfig hl]

end Views

theorem rule_views_agree :
    (∀ (index : RuleIndex) (qname : String),
      (∀ set, index.matchName qname = some set ↔
        ∃ labels, LongestIndexed index qname labels ∧ index.get? (join '.' labels) = some set) ∧
      (index.matchName qname = none ↔ ∀ labels, labels <:+ split '.' (indexKey qname) →
        2 ≤ labels.length → index.get? (join '.' labels) = none)) ∧
    ∀ c : Config, (∀ routing ∈ c.routing, routing.lists = []) → ∀ (lists : FetchedLists)
      (qname : String), (∀ ch ∈ qname.toList, ch.toNat < 128) → endsWith qname ".." = false →
        ruleOf c.toFields qname =
            (Ui.ruleOf qname c.rules).map (fun rule => (rule.domain.val, rule.learn)) ∧
          (RuleIndex.fromConfig c.toFields lists).matchName qname =
            (Ui.ruleOf qname c.rules).map (fun rule => channelSet rule.toDomainChannel) :=
  ⟨fun _ _ => ⟨fun _ => matchName_some_iff, matchName_none_iff⟩,
    fun _ hl lists _ ha hd => ⟨ruleOf_view ha hd, matchName_view hl lists ha hd⟩⟩

theorem tor_checked : checkCountryChannel .tor none none = true := rfl

theorem direct_checked : checkCountryChannel .direct none none = true := rfl

def siteRules : List DomainRule :=
  [torRule siteName .tor tor_checked,
    torRule ⟨"media.site.example", by decide⟩ .direct direct_checked]

def nestedRules : Config where
  role := .home
  network := some sampleNetwork
  routing := some { mode := .smart, defaultUpstream := torKey, domains := siteRules }
  upstreams := { tor := { enabled := true } }
  valid := by decide

theorem nested_views_agree :
    ruleOf nestedRules.toFields "img.Media.Site.example." = some ("media.site.example", true) ∧
      (RuleIndex.fromConfig nestedRules.toFields Dict.empty).matchName "img.Media.Site.example." =
        some directSet := by
  have h := rule_views_agree.2 nestedRules (by decide) Dict.empty "img.Media.Site.example."
    (by simp) (by decide)
  refine ⟨h.1.trans ?_, h.2.trans ?_⟩
  · decide +kernel
  · decide +kernel

end VibeDPN
