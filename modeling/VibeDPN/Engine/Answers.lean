import VibeDPN.Engine.Resolver

namespace VibeDPN

open Inet

def RecordData.ipv4 : RecordData → List IPv4Address
  | .a addresses => addresses
  | .svcb records => records.flatMap ServiceBinding.ipv4hint
  | _ => []

def RecordData.ipv6 : RecordData → List IPv6Address
  | .aaaa addresses => addresses
  | .svcb records => records.flatMap ServiceBinding.ipv6hint
  | _ => []

namespace Message

def records (m : Message) : List RRset := m.answer ++ m.authority ++ m.additional

def ipv4 (m : Message) : List IPv4Address := m.records.flatMap (fun r => r.data.ipv4)

def ipv6 (m : Message) : List IPv6Address := m.records.flatMap (fun r => r.data.ipv6)

end Message

-- what a client may do with the message stays inside the channel set
structure Contained (m : Message) (set : String) (sets : ChannelSets) (now : Rat) : Prop where
  ipv6 : m.ipv6 = []
  ipv4 : ∀ a ∈ steerable m.ipv4, sets.alive now set a = true

def NoWayAround (s : Steering) (now : Rat) (query response : Message) : Prop :=
  ∀ q set, query.question.head? = some q →
    s.resolver.index.matchName (questionName q) = some set → set ≠ directSet →
    ∀ outcome s' m, s.resolve now query (.ok response) outcome = (s', .ok m) →
      Contained m set s'.sets now

-- an AAAA question, or a response whose addresses the A records or the set already cover
def Covered (s : Steering) (now : Rat) (query response : Message) : Prop :=
  ∀ q set, query.question.head? = some q →
    s.resolver.index.matchName (questionName q) = some set → set ≠ directSet →
    q.rdtype = .aaaa ∨ (response.ipv6 = [] ∧ ∀ a ∈ steerable response.ipv4,
      a ∈ steerable (answerFacts response).addresses ∨ s.sets.alive now set a = true)

theorem capTtl_ipv4 (response : Message) : (capTtl response).1.ipv4 = response.ipv4 := by
  simp [capTtl, Message.ipv4, Message.records, List.flatMap_map, RRset.cap]

theorem capTtl_ipv6 (response : Message) : (capTtl response).1.ipv6 = response.ipv6 := by
  simp [capTtl, Message.ipv6, Message.records, List.flatMap_map, RRset.cap]

theorem contained_of_empty {m : Message} (h : m.records = []) (set : String) (sets : ChannelSets)
    (now : Rat) : Contained m set sets now :=
  ⟨by simp [Message.ipv6, h], fun a ha => by simp [Message.ipv4, h, steerable] at ha⟩

theorem fill_covers {now : Rat} {set : String} {response : Message} {outcome : NftOutcome}
    {sets after : ChannelSets} (h : fillAnswer now set response outcome sets = .ok after)
    {a : IPv4Address}
    (ha : a ∈ steerable (answerFacts response).addresses ∨ sets.alive now set a = true) :
    after.alive now set a = true := by
  rcases fillAnswer_ok.mp h with ⟨hn, rfl⟩ | ⟨ttl, -, -, -, rfl⟩
  · exact ha.resolve_left (by simp [hn])
  · have hpos : 0 < ttl + setMarginSeconds := Nat.lt_add_left ttl (by decide)
    rcases ha with ha | ha
    · exact TimedSets.alive_fill hpos ha
    · exact TimedSets.alive_fill_of_alive hpos ha

theorem fill_only {now : Rat} {set : String} {response : Message} {outcome : NftOutcome}
    {sets after : ChannelSets} (h : fillAnswer now set response outcome sets = .ok after)
    {a : IPv4Address} (ha : after.alive now set a = true) :
    a ∈ steerable (answerFacts response).addresses ∨ sets.alive now set a = true := by
  rcases fillAnswer_ok.mp h with ⟨-, rfl⟩ | ⟨ttl, -, -, -, rfl⟩
  · exact .inr ha
  · by_cases hm : a ∈ steerable (answerFacts response).addresses
    · exact .inl hm
    · obtain ⟨expires, he, hn⟩ := TimedSets.alive_iff.mp ha
      rw [TimedSets.fill_of_not (fun hc => hm hc.2)] at he
      exact .inr (TimedSets.alive_iff.mpr ⟨expires, he, hn⟩)

theorem fillAnswer_loaded (now : Rat) (set : String) (response : Message) (sets : ChannelSets) :
    ∃ after, fillAnswer now set response .loaded sets = .ok after := by
  by_cases hw : steerable (answerFacts response).addresses = []
  · exact ⟨sets, fillAnswer_ok.mpr (.inl ⟨hw, rfl⟩)⟩
  · obtain ⟨ttl, ht⟩ := capTtl_some hw
    exact ⟨_, fillAnswer_ok.mpr (.inr ⟨ttl, ht, hw, rfl, rfl⟩)⟩

theorem no_way_around_iff (s : Steering) (now : Rat) (query response : Message) :
    NoWayAround s now query response ↔ Covered s now query response := by
  constructor
  · intro h q set hq hm hd
    by_cases hv : q.rdtype = .aaaa
    · exact .inl hv
    · have hr : s.resolver.refusesIpv6 q = false := by
        rw [Bool.eq_false_iff, ne_eq, Resolver.refusesIpv6_iff hm hd]
        exact hv
      obtain ⟨after, ha⟩ := fillAnswer_loaded now set response s.sets
      have hres := Steering.resolve_matched now response hq hm hr .loaded
      rw [ha] at hres
      have hc := h q set hq hm hd .loaded _ _ hres
      refine .inr ⟨capTtl_ipv6 response ▸ hc.ipv6, fun a hs => ?_⟩
      exact fill_only ha (hc.ipv4 a (by rwa [capTtl_ipv4]))
  · intro h q set hq hm hd outcome s' m hres
    by_cases hv : s.resolver.refusesIpv6 q = true
    · rw [Steering.resolve_refused hq hv, Prod.mk.injEq, Except.ok.injEq] at hres
      rw [← hres.2]
      exact contained_of_empty rfl set s'.sets now
    · obtain ⟨h6, h4⟩ := (h q set hq hm hd).resolve_left
        (fun ha => hv ((Resolver.refusesIpv6_iff hm hd).mpr ha))
      rw [Steering.resolve_matched now response hq hm (Bool.not_eq_true _ ▸ hv)] at hres
      cases hf : fillAnswer now set response outcome s.sets with
      | error e => simp [hf] at hres
      | ok sets =>
        simp only [hf, Prod.mk.injEq, Except.ok.injEq] at hres
        obtain ⟨rfl, rfl⟩ := hres
        refine ⟨(capTtl_ipv6 response).trans h6, fun a ha => ?_⟩
        rw [capTtl_ipv4] at ha
        exact fill_covers hf (h4 a ha)

theorem answer_error {s : Steering} {now : Rat} {query : Message} {exchange : Except String Message}
    {outcome : NftOutcome} {s' : Steering} {e : String}
    (h : s.resolve now query exchange outcome = (s', .error e)) (set : String) :
    Contained (s.answer now query exchange outcome).2 set s'.sets now := by
  simp only [Steering.answer, h]
  exact contained_of_empty rfl set s'.sets now

def siteIndex : RuleIndex := RuleIndex.add Dict.empty "example.com" "smart_vps"

def httpsQuery : Message := { question := [⟨"example.com.", .https⟩] }

-- the HTTPS record of the site names an IPv6 address and an IPv4 address nobody put into the set
def httpsResponse : Message :=
  { question := httpsQuery.question
    answer := [⟨60, .svcb [{ ipv4hint := [0x5DB8D822#32], ipv6hint := [1#128] }]⟩] }

def siteSteering : Steering := ⟨{ index := siteIndex }, fun _ _ => none⟩

theorem site_matched :
    siteSteering.resolver.index.matchName (questionName ⟨"example.com.", .https⟩) =
      some "smart_vps" := by
  decide +kernel

theorem https_hints_escape : ¬ NoWayAround siteSteering 0 httpsQuery httpsResponse := by
  intro h
  have hr : siteSteering.resolver.refusesIpv6 ⟨"example.com.", .https⟩ = false := by decide
  obtain ⟨after, ha⟩ := fillAnswer_loaded 0 "smart_vps" httpsResponse siteSteering.sets
  have hq : httpsQuery.question.head? = some ⟨"example.com.", .https⟩ := rfl
  have hres := Steering.resolve_matched 0 httpsResponse hq site_matched hr .loaded
  rw [ha] at hres
  exact absurd (h _ _ hq site_matched (by decide) .loaded _ _ hres).ipv6 (by decide)

end VibeDPN
