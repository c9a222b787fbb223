import VibeDPN.Engine.Marks

namespace VibeDPN

open Inet

structure SeenDevice where
  mac : Mac
  ip : IPv4Address
  hostname : Option String := none
  firstSeen : Nat := 0
  lastSeen : Nat := 0
deriving DecidableEq

structure DeviceView where
  mac : Option Mac
  ip : Option IPv4Address
  name : Option String
  hostname : Option String
  policy : Option String
  seen : Bool
  firstSeen : Option Nat
  lastSeen : Option Nat
deriving DecidableEq

def macEntry (configured : List DeviceConfig) (mac : Mac) : Option DeviceConfig :=
  configured.find? (fun item => item.mac = some mac)

def ipEntry (configured : List DeviceConfig) (ip : IPv4Address) : Option DeviceConfig :=
  configured.find? (fun item => item.mac = none ∧ item.ip = some ip)

def ownEntry (seen : SeenDevice) (configured : List DeviceConfig) : Option DeviceConfig :=
  (macEntry configured seen.mac).or (ipEntry configured seen.ip)

def deviceView (seen : SeenDevice) (configured : List DeviceConfig) : DeviceView :=
  let own := ownEntry seen configured
  { mac := some seen.mac
    ip := some seen.ip
    name := own.map (fun d => d.name.val)
    hostname := seen.hostname
    policy := own.map (fun d => d.policy.value)
    seen := true
    firstSeen := some seen.firstSeen
    lastSeen := some seen.lastSeen }

def unseenEntries (seen : List SeenDevice) (configured : List DeviceConfig) : List DeviceConfig :=
  configured.filter (fun item =>
    match item.mac with
    | some mac => mac ∉ seen.map SeenDevice.mac
    | none => item.ip ∉ (seen.map SeenDevice.ip).map some)

def unseenViews (seen : List SeenDevice) (configured : List DeviceConfig) : List DeviceView :=
  (unseenEntries seen configured).map (fun item =>
    { mac := item.mac
      ip := item.ip
      name := some item.name.val
      hostname := none
      policy := some item.policy.value
      seen := false
      firstSeen := none
      lastSeen := none })

def deviceRows (seen : List SeenDevice) (configured : List DeviceConfig) : List DeviceView :=
  seen.map (fun item => deviceView item configured) ++ unseenViews seen configured

def Reported (seen : List SeenDevice) (configured : List DeviceConfig) (d : DeviceConfig) : Prop :=
  (∃ item ∈ seen, ownEntry item configured = some d) ∨ d ∈ unseenEntries seen configured

theorem reported_row {seen : List SeenDevice} {configured : List DeviceConfig} {d : DeviceConfig}
    (h : Reported seen configured d) : ∃ row ∈ deviceRows seen configured,
      row.name = some d.name.val ∧ row.policy = some d.policy.value := by
  rcases h with ⟨item, hi, ho⟩ | h
  · exact ⟨deviceView item configured, List.mem_append_left _ (List.mem_map.mpr ⟨item, hi, rfl⟩),
      by simp [deviceView, ho]⟩
  · exact ⟨_, List.mem_append_right _ (List.mem_map.mpr ⟨d, h, rfl⟩), rfl, rfl⟩

def DevicePolicy.ofRule (r : MarkRule) : Option DevicePolicy :=
  DevicePolicy.all.find? (fun policy =>
    r.cond = .etherSaddr (macSetName policy.value) ∨ r.cond = .ipSaddr (ipSetName policy.value))

def RouterRuleset.policyOf (rs : RouterRuleset) (smart : String → List IPv4Address) (p : Packet) :
    Option DevicePolicy :=
  (rs.rules.find? (fun r => rs.admits smart p r.cond)).bind DevicePolicy.ofRule

def DevicePolicy.mark : DevicePolicy → Option Nat
  | .bypass => none
  | .block => some blockMark
  | policy => (policyUplinks policy).map (fun up => (uplinks up).mark)

def DevicePolicy.rank : DevicePolicy → Nat
  | .bypass => 0
  | .block => 1
  | .vps => 2
  | .dpn => 3
  | .tor => 4

def chosenPolicy : Option DevicePolicy → Option DevicePolicy → Option DevicePolicy
  | some m, some i => if i.rank < m.rank then some i else some m
  | m, i => m.or i

theorem mem_macEntry {c : Config} {mac : Mac} {policy : DevicePolicy} :
    mac.val ∈ c.devices.filterMap (macElement policy) ↔
      (macEntry c.devices mac).map DeviceConfig.policy = some policy := by
  constructor
  · intro h
    obtain ⟨d, hd, hp, hm⟩ := Fields.mac_policy h
    obtain ⟨m, hdm, hmv⟩ := Option.map_eq_some_iff.mp hm
    have hdm' : d.mac = some mac := by rw [hdm, Subtype.ext hmv]
    cases he : macEntry c.devices mac with
    | none => simpa [hdm'] using List.find?_eq_none.mp he d hd
    | some e =>
      have hem : e.mac = some mac := by simpa using List.find?_some he
      have hde : d = e := eq_of_filterMap c.macs_nodup hd (List.mem_of_find?_eq_some he) hdm' hem
      simp [← hde, hp]
  · intro h
    obtain ⟨e, he, hep⟩ := Option.map_eq_some_iff.mp h
    have hem : e.mac = some mac := by simpa using List.find?_some he
    exact List.mem_filterMap.mpr
      ⟨e, List.mem_of_find?_eq_some he, by simp [macElement, hep, hem]⟩

theorem mem_ipEntry {c : Config} {ip : IPv4Address} {policy : DevicePolicy} :
    ip.str ∈ c.devices.filterMap (ipElement policy) ↔
      (ipEntry c.devices ip).map DeviceConfig.policy = some policy := by
  constructor
  · intro h
    obtain ⟨d, hd, hp, hm, hi⟩ := Fields.ip_policy h
    obtain ⟨a, hda, hav⟩ := Option.map_eq_some_iff.mp hi
    have hdi : d.ip = some ip := by rw [hda, str_injective hav]
    cases he : ipEntry c.devices ip with
    | none => simpa [hm, hdi] using List.find?_eq_none.mp he d hd
    | some e =>
      have hei : e.mac = none ∧ e.ip = some ip := by simpa using List.find?_some he
      have hde : d = e :=
        eq_of_filterMap c.ips_nodup hd (List.mem_of_find?_eq_some he) hdi hei.2
      simp [← hde, hp]
  · intro h
    obtain ⟨e, he, hep⟩ := Option.map_eq_some_iff.mp h
    have hei : e.mac = none ∧ e.ip = some ip := by simpa using List.find?_some he
    exact List.mem_filterMap.mpr
      ⟨e, List.mem_of_find?_eq_some he, by simp [ipElement, hep, hei]⟩

theorem admits_mac {c : Config} {rs : RouterRuleset} (hs : rs.sets = c.deviceSets)
    (smart : String → List IPv4Address) (p : Packet) (policy : DevicePolicy) :
    rs.admits smart p (.etherSaddr (macSetName policy.value)) =
      decide ((macEntry c.devices p.etherSaddr).map DeviceConfig.policy = some policy) := by
  rw [Bool.eq_iff_iff, decide_eq_true_eq, ← mem_macEntry, ← Fields.mem_macSet, ← hs]
  rfl

theorem admits_ip {c : Config} {rs : RouterRuleset} (hs : rs.sets = c.deviceSets)
    (smart : String → List IPv4Address) (p : Packet) (policy : DevicePolicy) :
    rs.admits smart p (.ipSaddr (ipSetName policy.value)) =
      decide ((ipEntry c.devices p.saddr).map DeviceConfig.policy = some policy) := by
  rw [Bool.eq_iff_iff, decide_eq_true_eq, ← mem_ipEntry, ← Fields.mem_ipSet, ← hs]
  rfl

def chainOrder : List DevicePolicy := [.bypass, .block, .vps, .dpn, .tor]

theorem chainRules_policies (nets : List NetworkSet) (marks : List UplinkPolicy)
    (mode : Option Nat) : ∃ rest, chainRules nets marks mode =
      chainOrder.flatMap (fun policy => policyRules policy.value policy.mark) ++ rest ∧
      ∀ r ∈ rest, DevicePolicy.ofRule r = none := by
  refine ⟨nets.map (fun net => ⟨.networkSet net.name, net.mark, true⟩) ++
    marks.map (fun m => ⟨.smartSet m.name, some m.mark, true⟩) ++
    mode.toList.map (fun m => ⟨.always, some m, false⟩), ?_, ?_⟩
  · simp only [chainRules, ← List.append_assoc]
    rfl
  · intro r hr
    simp only [List.mem_append, List.mem_map] at hr
    rcases hr with (⟨_, -, rfl⟩ | ⟨_, -, rfl⟩) | ⟨_, -, rfl⟩ <;> simp [DevicePolicy.ofRule]

theorem ofRule_policyRules {policy : DevicePolicy} {r : MarkRule}
    (h : r ∈ policyRules policy.value policy.mark) : DevicePolicy.ofRule r = some policy := by
  revert r
  cases policy <;> decide

theorem find_policies {admits : MarkCond → Bool} {m i : Option DevicePolicy}
    (hm : ∀ policy : DevicePolicy,
      admits (.etherSaddr (macSetName policy.value)) = decide (m = some policy))
    (hi : ∀ policy : DevicePolicy,
      admits (.ipSaddr (ipSetName policy.value)) = decide (i = some policy))
    {rest : List MarkRule} (hrest : ∀ r ∈ rest, DevicePolicy.ofRule r = none)
    (policies : List DevicePolicy) :
    ((policies.flatMap (fun policy => policyRules policy.value policy.mark) ++ rest).find?
        (fun r => admits r.cond)).bind DevicePolicy.ofRule =
      policies.find? (fun policy => m = some policy ∨ i = some policy) := by
  induction policies with
  | nil =>
    rw [List.flatMap_nil, List.nil_append, List.find?_nil]
    cases hf : rest.find? (fun r => admits r.cond) with
    | none => rfl
    | some r => exact hrest r (List.mem_of_find?_eq_some hf)
  | cons policy policies ih =>
    have hmac : DevicePolicy.ofRule ⟨.etherSaddr (macSetName policy.value), policy.mark, true⟩ =
        some policy := ofRule_policyRules (by simp [policyRules])
    have hip : DevicePolicy.ofRule ⟨.ipSaddr (ipSetName policy.value), policy.mark, true⟩ =
        some policy := ofRule_policyRules (by simp [policyRules])
    rw [List.flatMap_cons, List.append_assoc, policyRules, List.cons_append, List.cons_append,
      List.nil_append, List.find?_cons, List.find?_cons, List.find?_cons, hm, hi]
    by_cases h1 : m = some policy
    · simp [h1, hmac]
    · by_cases h2 : i = some policy
      · simp [h1, h2, hip]
      · simpa [h1, h2] using ih

theorem find_chainOrder (m i : Option DevicePolicy) :
    chainOrder.find? (fun policy => m = some policy ∨ i = some policy) = chosenPolicy m i := by
  rcases m with - | m <;> rcases i with - | i
  · rfl
  · cases i <;> rfl
  · cases m <;> rfl
  · cases m <;> cases i <;> rfl

theorem policyOf_eq {c : Config} {rs : RouterRuleset} (h : routerRuleset c.toFields = .ok (some rs))
    (smart : String → List IPv4Address) (p : Packet) :
    rs.policyOf smart p = chosenPolicy
      ((macEntry c.devices p.etherSaddr).map DeviceConfig.policy)
      ((ipEntry c.devices p.saddr).map DeviceConfig.policy) := by
  obtain ⟨-, hs, -, marks, nets, mode, -, -, -, -, hrules, -⟩ := rendered_of_ok h
  obtain ⟨rest, hchain, hrest⟩ := chainRules_policies nets marks mode
  rw [RouterRuleset.policyOf, hrules, hchain,
    find_policies (admits_mac hs smart p) (admits_ip hs smart p) hrest, find_chainOrder]

theorem prerouting_policy {c : Config} {rs : RouterRuleset}
    (h : routerRuleset c.toFields = .ok (some rs)) {smart : String → List IPv4Address} {p : Packet}
    (hs : rs.steers p = true) {policy : DevicePolicy} (hp : rs.policyOf smart p = some policy) :
    rs.prerouting smart p = policy.mark := by
  obtain ⟨-, -, -, marks, nets, mode, -, -, -, -, hrules, -⟩ := rendered_of_ok h
  obtain ⟨rest, hchain, hrest⟩ := chainRules_policies nets marks mode
  obtain ⟨r, hf, ho⟩ := Option.bind_eq_some_iff.mp hp
  have hr : r ∈ chainOrder.flatMap (fun policy => policyRules policy.value policy.mark) := by
    have hmem := List.mem_of_find?_eq_some hf
    rw [hrules, hchain, List.mem_append] at hmem
    exact hmem.resolve_right (fun hn => by simp [hrest r hn] at ho)
  obtain ⟨q, -, hq⟩ := List.mem_flatMap.mp hr
  have hqp : q = policy := by simpa [ofRule_policyRules hq] using ho
  subst hqp
  have hret : r.returns = true := by
    simp only [policyRules, List.mem_cons, List.not_mem_nil, or_false] at hq
    rcases hq with rfl | rfl <;> rfl
  rw [RouterRuleset.prerouting, if_pos hs, RouterRuleset.runChain_find hf hret,
    (mem_policyRules hq).1, Option.or_none]

structure DevicesAgree (c : Config) (rs : RouterRuleset) (seen : List SeenDevice) : Prop where
  shown : ∀ item ∈ seen, ∀ smart p, p.etherSaddr = item.mac → p.saddr = item.ip →
    (deviceView item c.devices).policy = (rs.policyOf smart p).map DevicePolicy.value
  visible : ∀ d ∈ c.devices, Reported seen c.devices d

-- the device is matched by its MAC, but the chain comes to the policy of its address first
def Outranked (c : Config) (item : SeenDevice) : Prop :=
  ∃ m ∈ c.devices, ∃ i ∈ c.devices, m.mac = some item.mac ∧ i.mac = none ∧ i.ip = some item.ip ∧
    i.policy.rank < m.policy.rank

-- the address of the entry is seen, but only with MACs that have an entry of their own
def Hidden (c : Config) (seen : List SeenDevice) (d : DeviceConfig) : Prop :=
  d.mac = none ∧ (∃ item ∈ seen, d.ip = some item.ip) ∧
    ∀ item ∈ seen, d.ip = some item.ip → ∃ m ∈ c.devices, m.mac = some item.mac

theorem macEntry_eq_some {c : Config} {mac : Mac} {d : DeviceConfig} :
    macEntry c.devices mac = some d ↔ d ∈ c.devices ∧ d.mac = some mac := by
  constructor
  · exact fun h => ⟨List.mem_of_find?_eq_some h, by simpa using List.find?_some h⟩
  · rintro ⟨hd, hm⟩
    cases he : macEntry c.devices mac with
    | none => simpa [hm] using List.find?_eq_none.mp he d hd
    | some e =>
      have hem : e.mac = some mac := by simpa using List.find?_some he
      rw [eq_of_filterMap c.macs_nodup hd (List.mem_of_find?_eq_some he) hm hem]

theorem ipEntry_eq_some {c : Config} {ip : IPv4Address} {d : DeviceConfig} :
    ipEntry c.devices ip = some d ↔ d ∈ c.devices ∧ d.mac = none ∧ d.ip = some ip := by
  constructor
  · exact fun h => ⟨List.mem_of_find?_eq_some h, by simpa using List.find?_some h⟩
  · rintro ⟨hd, hm, hi⟩
    cases he : ipEntry c.devices ip with
    | none => simpa [hm, hi] using List.find?_eq_none.mp he d hd
    | some e =>
      have hei : e.mac = none ∧ e.ip = some ip := by simpa using List.find?_some he
      rw [eq_of_filterMap c.ips_nodup hd (List.mem_of_find?_eq_some he) hi hei.2]

theorem outranked_iff {c : Config} {item : SeenDevice} : Outranked c item ↔
    ∃ m i, macEntry c.devices item.mac = some m ∧ ipEntry c.devices item.ip = some i ∧
      i.policy.rank < m.policy.rank := by
  constructor
  · rintro ⟨m, hm, i, hi, hmm, him, hii, hr⟩
    exact ⟨m, i, macEntry_eq_some.mpr ⟨hm, hmm⟩, ipEntry_eq_some.mpr ⟨hi, him, hii⟩, hr⟩
  · rintro ⟨m, i, hm, hi, hr⟩
    obtain ⟨hm, hmm⟩ := macEntry_eq_some.mp hm
    obtain ⟨hi, him, hii⟩ := ipEntry_eq_some.mp hi
    exact ⟨m, hm, i, hi, hmm, him, hii, hr⟩

theorem chosen_own (m i : Option DeviceConfig) :
    chosenPolicy (m.map DeviceConfig.policy) (i.map DeviceConfig.policy) =
        (m.or i).map DeviceConfig.policy ↔
      ¬ ∃ a b, m = some a ∧ i = some b ∧ b.policy.rank < a.policy.rank := by
  cases m with
  | none => simp [chosenPolicy]
  | some a =>
    cases i with
    | none => simp [chosenPolicy]
    | some b =>
      simp only [chosenPolicy, Option.map_some, Option.some_or, Option.some.injEq]
      constructor
      · rintro h ⟨_, _, rfl, rfl, hr⟩
        rw [if_pos hr, Option.some.injEq] at h
        rw [h] at hr
        exact lt_irrefl _ hr
      · intro h
        rw [if_neg (fun hr => h ⟨a, b, rfl, rfl, hr⟩)]

theorem value_injective {p q : DevicePolicy} (h : p.value = q.value) : p = q := by
  revert h
  cases p <;> cases q <;> decide

theorem shown_iff {c : Config} {rs : RouterRuleset} (h : routerRuleset c.toFields = .ok (some rs))
    (item : SeenDevice) (smart : String → List IPv4Address) {p : Packet}
    (hm : p.etherSaddr = item.mac) (hi : p.saddr = item.ip) :
    (deviceView item c.devices).policy = (rs.policyOf smart p).map DevicePolicy.value ↔
      ¬ Outranked c item := by
  have hv : (deviceView item c.devices).policy =
      ((ownEntry item c.devices).map DeviceConfig.policy).map DevicePolicy.value := by
    simp [deviceView, Function.comp_def]
  rw [hv, policyOf_eq h smart p, hm, hi, outranked_iff,
    (Option.map_injective (fun _ _ => value_injective)).eq_iff, eq_comm, ownEntry, chosen_own]

theorem reported_iff {c : Config} {seen : List SeenDevice} {d : DeviceConfig}
    (hd : d ∈ c.devices) : Reported seen c.devices d ↔ ¬ Hidden c seen d := by
  cases hm : d.mac with
  | some mac =>
    refine iff_of_true ?_ (fun hh => absurd hh.1 (by simp [hm]))
    by_cases hs : ∃ item ∈ seen, item.mac = mac
    · obtain ⟨item, hi, rfl⟩ := hs
      exact .inl ⟨item, hi, by simp [ownEntry, macEntry_eq_some.mpr ⟨hd, hm⟩]⟩
    · exact .inr (List.mem_filter.mpr ⟨hd, by simpa [hm] using hs⟩)
  | none =>
    obtain ⟨ip, hip⟩ := Option.isSome_iff_exists.mp (Config.device_identity hd hm)
    by_cases hs : ∃ item ∈ seen, item.ip = ip
    · have hun : d ∉ unseenEntries seen c.devices := by
        intro hu
        obtain ⟨item, hi, hii⟩ := hs
        have hf := (List.mem_filter.mp hu).2
        simp only [hm, hip, decide_eq_true_eq, List.mem_map, Option.some.injEq] at hf
        exact hf ⟨ip, ⟨item, hi, hii⟩, rfl⟩
      constructor
      · rintro (⟨item, hi, ho⟩ | hu)
        · rintro ⟨-, -, hall⟩
          rw [ownEntry, Option.or_eq_some_iff] at ho
          rcases ho with ho | ⟨hn, ho⟩
          · simp [(macEntry_eq_some.mp ho).2] at hm
          · obtain ⟨m, hmd, hmm⟩ := hall item hi (ipEntry_eq_some.mp ho).2.2
            simp [macEntry_eq_some.mpr ⟨hmd, hmm⟩] at hn
        · exact absurd hu hun
      · intro hh
        by_contra hr
        obtain ⟨item, hi, hii⟩ := hs
        refine hh ⟨hm, ⟨item, hi, by rw [hip, hii]⟩, fun other ho hoi => ?_⟩
        cases he : macEntry c.devices other.mac with
        | some m => exact ⟨m, macEntry_eq_some.mp he⟩
        | none =>
          refine absurd (.inl ⟨other, ho, ?_⟩) hr
          rw [ownEntry, he, Option.none_or, ipEntry_eq_some]
          exact ⟨hd, hm, hoi⟩
    · refine iff_of_true (.inr (List.mem_filter.mpr ⟨hd, ?_⟩)) ?_
      · simp only [hm, hip, decide_eq_true_eq, List.mem_map, Option.some.injEq]
        rintro ⟨_, ⟨item, hi, rfl⟩, rfl⟩
        exact hs ⟨item, hi, rfl⟩
      · rintro ⟨-, ⟨item, hi, hii⟩, -⟩
        rw [hip, Option.some.injEq] at hii
        exact hs ⟨item, hi, hii.symm⟩

theorem devices_agree_iff {c : Config} {rs : RouterRuleset}
    (h : routerRuleset c.toFields = .ok (some rs)) (seen : List SeenDevice) :
    DevicesAgree c rs seen ↔
      (∀ item ∈ seen, ¬ Outranked c item) ∧ ∀ d ∈ c.devices, ¬ Hidden c seen d := by
  constructor
  · rintro ⟨hs, hv⟩
    refine ⟨fun item hi => ?_, fun d hd => (reported_iff hd).mp (hv d hd)⟩
    let p : Packet := { iif := "", etherSaddr := item.mac, saddr := item.ip, daddr := item.ip }
    exact (shown_iff (p := p) h item (fun _ => []) rfl rfl).mp (hs item hi (fun _ => []) p rfl rfl)
  · rintro ⟨ho, hh⟩
    exact ⟨fun item hi smart p hm hp => (shown_iff h item smart hm hp).mpr (ho item hi),
      fun d hd => (reported_iff hd).mpr (hh d hd)⟩

def phoneMac : Mac := ⟨"aa:bb:cc:dd:ee:01", by decide⟩

-- the phone goes through the node by its MAC, and its address of today has a policy of its own
def phoneAndAddress : Config where
  role := .home
  network := some sampleNetwork
  routing := some { defaultUpstream := dpnKey }
  devices :=
    [{ name := ⟨"phone", by decide⟩, mac := some phoneMac, policy := .dpn },
      { name := ⟨"tv", by decide⟩, ip := some 0xC0A80109#32, policy := .block }]
  upstreams := { dpn := { enabled := true } }
  valid := by decide

def phoneSeen : SeenDevice := { mac := phoneMac, ip := 0xC0A80109#32 }

theorem phone_elsewhere : ∃ rs, routerRuleset phoneAndAddress.toFields = .ok (some rs) ∧
    DevicesAgree phoneAndAddress rs [{ phoneSeen with ip := 0xC0A80110#32 }] := by
  obtain ⟨rs, hrs⟩ := Config.routerRuleset_total (show phoneAndAddress.network.isSome by decide)
  refine ⟨rs, hrs, (devices_agree_iff hrs _).mpr ⟨?_, ?_⟩⟩
  · rintro item hi ⟨m, hm, i, hi', -, hin, hii, -⟩
    obtain rfl := List.mem_singleton.mp hi
    simp only [phoneAndAddress, List.mem_cons, List.not_mem_nil, or_false] at hi'
    rcases hi' with rfl | rfl
    · simp at hin
    · exact absurd hii (by decide)
  · rintro d hd ⟨hm, ⟨item, hi, hdi⟩, -⟩
    obtain rfl := List.mem_singleton.mp hi
    simp only [phoneAndAddress, List.mem_cons, List.not_mem_nil, or_false] at hd
    rcases hd with rfl | rfl
    · simp at hm
    · exact absurd hdi (by decide)

theorem phone_blocked : ∃ rs, routerRuleset phoneAndAddress.toFields = .ok (some rs) ∧
    ¬ DevicesAgree phoneAndAddress rs [phoneSeen] := by
  obtain ⟨rs, hrs⟩ := Config.routerRuleset_total (show phoneAndAddress.network.isSome by decide)
  refine ⟨rs, hrs, fun ha => ?_⟩
  let p : Packet :=
    { iif := "eth0", etherSaddr := phoneMac, saddr := 0xC0A80109#32, daddr := 0x08080808#32 }
  have hs := ha.shown phoneSeen (by simp) (fun _ => []) p rfl rfl
  rw [policyOf_eq hrs] at hs
  exact absurd hs (by decide)

end VibeDPN
