import VibeDPN.Engine.Uplinks

namespace VibeDPN

open Text Inet

def directSet : String := "smart_direct"

def channelSet (item : DomainChannel) : String :=
  match item.via with
  | .dpn => "smart_dpn_" ++ lower ((item.country.map Subtype.val).getD "any")
  | .wg => "smart_wg_" ++ replaceChar '-' '_' ((item.uplink.map Subtype.val).getD "")
  | .direct => directSet
  | via => "smart_" ++ via.value

structure DeviceSet where
  name : String
  type : String
  elements : List String
deriving DecidableEq, Repr

structure UplinkPolicy where
  name : String
  mark : Nat
deriving DecidableEq, Repr

structure NetworkSet where
  name : String
  mark : Option Nat
  elements : List IPv4Network
deriving DecidableEq

def macSetName (policy : String) : String := "devices_" ++ policy ++ "_mac"

def ipSetName (policy : String) : String := "devices_" ++ policy ++ "_ip"

def macElement (policy : DevicePolicy) (d : DeviceConfig) : Option String :=
  if d.policy = policy then d.mac.map Subtype.val else none

def ipElement (policy : DevicePolicy) (d : DeviceConfig) : Option String :=
  if d.policy = policy ∧ d.mac = none then d.ip.map IPv4Address.str else none

def Fields.deviceSets (c : Fields) : List DeviceSet :=
  DevicePolicy.all.flatMap (fun policy =>
    [⟨macSetName policy.value, "ether_addr", c.devices.filterMap (macElement policy)⟩,
      ⟨ipSetName policy.value, "ipv4_addr", c.devices.filterMap (ipElement policy)⟩])

def Fields.smartSetNames (c : Fields) : List String :=
  ((c.channels.map channelSet).dedup).insertionSort (· ≤ ·)

-- the error is the key of the KeyError
def keyMark (table : Dict String Uplink) (key : String) : Except String Nat :=
  match table.get? key with
  | some u => .ok u.mark
  | none => .error key

def channelMark (table : Dict String Uplink) (item : DomainChannel) : Except String (Option Nat) :=
  match item.via, item.country, item.uplink with
  | .dpn, some country, _ => (keyMark table (countryKey country)).map some
  | .wg, _, some name => (keyMark table (wgKey name)).map some
  | via, _, _ => .ok ((ruleUplinks via).map (fun u => (uplinks u).mark))

def Fields.smartMarks (c : Fields) : Except String (List UplinkPolicy) := do
  let items ← c.smartChannels.mapM (fun item => do
    return (channelSet item, ← channelMark c.uplinkTable item))
  let marks := (Dict.empty : Dict String Nat).update
    (items.filterMap (fun e => e.2.map (fun mark => (e.1, mark))))
  return (marks.entries.insertionSort (fun a b => a.1 ≤ b.1)).map (fun e => ⟨e.1, e.2⟩)

def networkSetSuffix : String := "_net"

def addNetwork (d : Dict String NetworkSet) (set : NetworkSet) : Dict String NetworkSet :=
  match d.get? set.name with
  | some old => d.set set.name { set with elements := old.elements ++ set.elements }
  | none => d.set set.name set

def NetworkSet.le (a b : NetworkSet) : Prop :=
  (a.mark = none ∧ b.mark ≠ none) ∨ ((a.mark = none ↔ b.mark = none) ∧ a.name ≤ b.name)

instance : DecidableRel NetworkSet.le := fun a b => by
  unfold NetworkSet.le
  infer_instance

def Fields.smartRules (c : Fields) : List NetworkRule :=
  match c.routing with
  | some routing => if routing.mode = .smart then routing.networks else []
  | none => []

def Fields.smartNetworks (c : Fields) : Except String (List NetworkSet) := do
  let items ← c.smartRules.mapM (fun item => do
    return (⟨channelSet item.toDomainChannel ++ networkSetSuffix,
      ← channelMark c.uplinkTable item.toDomainChannel, [item.network]⟩ : NetworkSet))
  let sets := (items.foldl addNetwork Dict.empty).values.map (fun set =>
    { set with elements := set.elements.insertionSort (fun a b => a.str ≤ b.str) })
  return sets.insertionSort NetworkSet.le

inductive MarkCond where
  | etherSaddr (set : String)
  | ipSaddr (set : String)
  | networkSet (set : String)
  | smartSet (set : String)
  | always
deriving DecidableEq, Repr

structure MarkRule where
  cond : MarkCond
  mark : Option Nat
  returns : Bool
deriving DecidableEq, Repr

structure RouterRuleset where
  lanInterface : String
  lanSubnet : IPv4Network
  sets : List DeviceSet
  smartSets : List String
  networkSets : List NetworkSet
  rules : List MarkRule
  dnsMark : Option Nat
deriving DecidableEq

def policyRules (policy : String) (mark : Option Nat) : List MarkRule :=
  [⟨.etherSaddr (macSetName policy), mark, true⟩, ⟨.ipSaddr (ipSetName policy), mark, true⟩]

def uplinkPolicies : List UplinkPolicy :=
  [(DevicePolicy.vps, Upstream.vps), (.dpn, .dpn), (.tor, .tor)].map
    (fun e => ⟨e.1.value, (uplinks e.2).mark⟩)

def chainRules (networks : List NetworkSet) (marks : List UplinkPolicy) (mode : Option Nat) :
    List MarkRule :=
  policyRules "bypass" none ++ policyRules "block" (some blockMark) ++
    uplinkPolicies.flatMap (fun p => policyRules p.name (some p.mark)) ++
    networks.map (fun net => ⟨.networkSet net.name, net.mark, true⟩) ++
    marks.map (fun m => ⟨.smartSet m.name, some m.mark, true⟩) ++
    mode.toList.map (fun m => ⟨.always, some m, false⟩)

def Fields.modeMark (c : Fields) : Except String (Option Nat) :=
  match c.activeUplink with
  | some active => (keyMark c.uplinkTable active).map some
  | none => .ok none

def routerRuleset (c : Fields) : Except String (Option RouterRuleset) :=
  match c.network with
  | none => .ok none
  | some network => do
    let marks ← c.smartMarks
    let networks ← c.smartNetworks
    let mode ← c.modeMark
    return some
      { lanInterface := network.lanInterface
        lanSubnet := network.lanSubnet
        sets := c.deviceSets
        smartSets := c.smartSetNames
        networkSets := networks
        rules := chainRules networks marks mode
        dnsMark := if c.dns.enabled then mode else none }

structure Packet where
  iif : String
  ipv4 : Bool := true
  etherSaddr : Mac
  saddr : IPv4Address
  daddr : IPv4Address
  daddrLocal : Bool := false

def upstreamsSubnet : IPv4Network := ⟨0x0A4D0000#32, 24, slash24_le, by decide⟩

def adguardUid : Nat := 7753

namespace RouterRuleset

def deviceMember (rs : RouterRuleset) (name element : String) : Bool :=
  rs.sets.any (fun set => set.name = name && element ∈ set.elements)

def networkMember (rs : RouterRuleset) (name : String) (a : IPv4Address) : Bool :=
  rs.networkSets.any (fun set => set.name = name && set.elements.any (fun n => n.contains a))

-- smart: the elements the resolver of core put into the channel sets
def admits (rs : RouterRuleset) (smart : String → List IPv4Address) (p : Packet) :
    MarkCond → Bool
  | .etherSaddr set => rs.deviceMember set p.etherSaddr.val
  | .ipSaddr set => rs.deviceMember set p.saddr.str
  | .networkSet set => rs.networkMember set p.daddr
  | .smartSet set => p.daddr ∈ smart set
  | .always => true

def runChain (admits : MarkCond → Bool) : List MarkRule → Option Nat → Option Nat
  | [], mark => mark
  | r :: rules, mark =>
    if admits r.cond then
      if r.returns then r.mark.or mark else runChain admits rules (r.mark.or mark)
    else runChain admits rules mark

def steers (rs : RouterRuleset) (p : Packet) : Bool :=
  p.iif = rs.lanInterface && p.ipv4 && rs.lanSubnet.contains p.saddr &&
    !rs.lanSubnet.contains p.daddr && !upstreamsSubnet.contains p.daddr && !p.daddrLocal

def prerouting (rs : RouterRuleset) (smart : String → List IPv4Address) (p : Packet) :
    Option Nat :=
  if rs.steers p then runChain (rs.admits smart p) rs.rules none else none

def dnsUplink (rs : RouterRuleset) (skuid : Nat) (p : Packet) : Option Nat :=
  if skuid ≠ adguardUid || !p.ipv4 || rs.lanSubnet.contains p.daddr || p.daddrLocal then none
  else rs.dnsMark

def CanMark (rs : RouterRuleset) (mark : Nat) : Prop :=
  ∃ smart p, rs.prerouting smart p = some mark ∨ ∃ skuid, rs.dnsUplink skuid p = some mark

theorem runChain_some {admits : MarkCond → Bool} {rules : List MarkRule} {before : Option Nat}
    {mark : Nat} (h : runChain admits rules before = some mark) :
    before = some mark ∨ ∃ r ∈ rules, r.mark = some mark ∧ admits r.cond = true := by
  induction rules generalizing before with
  | nil => exact .inl h
  | cons r rules ih =>
    rw [runChain] at h
    split at h
    · rename_i ha
      split at h
      · rcases Option.or_eq_some_iff.mp h with h | ⟨_, h⟩
        · exact .inr ⟨r, by simp, h, ha⟩
        · exact .inl h
      · rcases ih h with h | ⟨s, hs, hm, hc⟩
        · rcases Option.or_eq_some_iff.mp h with h | ⟨_, h⟩
          · exact .inr ⟨r, by simp, h, ha⟩
          · exact .inl h
        · exact .inr ⟨s, by simp [hs], hm, hc⟩
    · rcases ih h with h | ⟨s, hs, hm, hc⟩
      · exact .inl h
      · exact .inr ⟨s, by simp [hs], hm, hc⟩

theorem runChain_find {admits : MarkCond → Bool} {rules : List MarkRule} {before : Option Nat}
    {r : MarkRule} (h : rules.find? (fun r => admits r.cond) = some r) (hr : r.returns = true) :
    runChain admits rules before = r.mark.or before := by
  induction rules with
  | nil => simp at h
  | cons s rules ih =>
    rw [List.find?_cons] at h
    rw [runChain]
    by_cases ha : admits s.cond = true
    · simp only [ha, Option.some.injEq] at h
      subst h
      rw [if_pos ha, if_pos hr]
    · simp only [ha] at h
      rw [if_neg ha, ih h]

theorem prerouting_some {rs : RouterRuleset} {smart : String → List IPv4Address} {p : Packet}
    {mark : Nat} (h : rs.prerouting smart p = some mark) :
    ∃ r ∈ rs.rules, r.mark = some mark ∧ rs.admits smart p r.cond = true := by
  rw [prerouting] at h
  split at h
  · exact (runChain_some h).resolve_left (by simp)
  · simp at h

theorem dnsUplink_some {rs : RouterRuleset} {skuid : Nat} {p : Packet} {mark : Nat}
    (h : rs.dnsUplink skuid p = some mark) : rs.dnsMark = some mark := by
  rw [dnsUplink] at h
  split at h
  · simp at h
  · exact h

end RouterRuleset

end VibeDPN
