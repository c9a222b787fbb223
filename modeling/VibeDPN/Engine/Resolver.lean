import VibeDPN.Lib.TimedSet
import VibeDPN.Engine.RuleIndex
import VibeDPN.Lib.Runs

namespace VibeDPN

open Text Inet

abbrev IPv6Address := BitVec 128

structure ServiceBinding where
  ipv4hint : List IPv4Address := []
  ipv6hint : List IPv6Address := []
deriving DecidableEq

inductive RecordData where
  | a (addresses : List IPv4Address)
  | aaaa (addresses : List IPv6Address)
  | cname (targets : List String)
  | svcb (records : List ServiceBinding)
  | other (rdtype : Nat)
deriving DecidableEq

structure RRset where
  ttl : Nat
  data : RecordData
deriving DecidableEq

inductive QueryType where
  | a | aaaa | https | other
deriving DecidableEq, Repr

structure Question where
  name : String
  rdtype : QueryType
deriving DecidableEq

structure Message where
  question : List Question
  rcode : Nat := 0
  answer : List RRset := []
  authority : List RRset := []
  additional : List RRset := []
deriving DecidableEq

def makeResponse (query : Message) : Message := { question := query.question }

def maxAnswerTtl : Nat := 300
def setMarginSeconds : Nat := 60
def recentAnswers : Nat := 4096
def servfail : Nat := 2

def questionName (q : Question) : String := lower (rstripBy (· = '.') q.name)

structure AnswerFacts where
  addresses : List IPv4Address
  cnameTargets : List String
  ttl : Option Nat
deriving DecidableEq

def RecordData.addresses : RecordData → List IPv4Address
  | .a addresses => addresses
  | _ => []

def RecordData.targets : RecordData → List String
  | .cname targets => targets.map (fun t => lower (rstripBy (· = '.') t))
  | _ => []

def answerFacts (response : Message) : AnswerFacts :=
  { addresses := response.answer.flatMap (fun r => r.data.addresses)
    cnameTargets := response.answer.flatMap (fun r => r.data.targets)
    ttl := (response.answer.map RRset.ttl).min? }

def thisNetwork : IPv4Network := ⟨0x00000000#32, 8, by decide, by decide⟩
def loopback : IPv4Network := ⟨0x7F000000#32, 8, by decide, by decide⟩
def linkLocal : IPv4Network := ⟨0xA9FE0000#32, 16, by decide, by decide⟩
def multicast : IPv4Network := ⟨0xE0000000#32, 4, by decide, by decide⟩
def reserved : IPv4Network := ⟨0xF0000000#32, 4, by decide, by decide⟩

def isSteerable (a : IPv4Address) : Bool :=
  !(a = 0 || thisNetwork.contains a || loopback.contains a || linkLocal.contains a ||
    multicast.contains a || reserved.contains a)

def steerable (addresses : List IPv4Address) : List IPv4Address := addresses.filter isSteerable

def RRset.cap (r : RRset) : RRset := { r with ttl := min r.ttl maxAnswerTtl }

def capTtl (response : Message) : Message × Option Nat :=
  let capped := response.answer.map RRset.cap
  ({ response with answer := capped }, (capped.map RRset.ttl).min?)

structure Remembered where
  addresses : List IPv4Address
  ttl : Nat
  expires : Rat
deriving DecidableEq

structure Resolver where
  index : RuleIndex
  recent : Dict String Remembered := Dict.empty
  cnames : Dict String String := Dict.empty
  learned : Dict String String := Dict.empty
  lists : FetchedLists := Dict.empty

abbrev ChannelSets := TimedSets String IPv4Address

structure Steering where
  resolver : Resolver
  sets : ChannelSets

inductive NftOutcome where
  | loaded
  | missing
  | failed (stderr : String)

def runNft (outcome : NftOutcome) (now : Rat) (script : List (ElementCommand String IPv4Address))
    (sets : ChannelSets) : Except String ChannelSets :=
  match outcome with
  | .loaded =>
    match TimedSets.transaction now script sets with
    | some sets => .ok sets
    | none => .error "nft could not fill a smart set: "
  | .missing => .error "nft not found (the core image installs nftables)"
  | .failed stderr => .error ("nft could not fill a smart set: " ++ strip stderr)

-- only an answer with an address to steer fills the set
def fillAnswer (now : Rat) (set : String) (response : Message) (outcome : NftOutcome)
    (sets : ChannelSets) : Except String ChannelSets :=
  let wanted := steerable (answerFacts response).addresses
  match (capTtl response).2 with
  | none => .ok sets
  | some ttl =>
    if wanted = [] then .ok sets
    else runNft outcome now (TimedSets.fillScript set wanted (ttl + setMarginSeconds)) sets

namespace Resolver

def remember (r : Resolver) (now : Rat) (qname : String) (facts : AnswerFacts) : Resolver :=
  match facts.ttl with
  | none => r
  | some ttl =>
    if facts.addresses = [] then r
    else
      let ttl := min ttl maxAnswerTtl
      { r with recent :=
          (r.recent.pushLast qname ⟨facts.addresses, ttl, now + ttl⟩).keepLast recentAnswers }

-- a CDN behind a CNAME follows the site, unless the index has an entry for it
def follow (set qname : String) (r : Resolver) (target : String) : Resolver :=
  match r.index.matchName target with
  | none => { r with index := r.index.add target set, cnames := r.cnames.set target qname }
  | some _ => r

def followTargets (r : Resolver) (set qname : String) (targets : List String) : Resolver :=
  targets.foldl (follow set qname) r

def refusesIpv6 (r : Resolver) (q : Question) : Bool :=
  q.rdtype = .aaaa &&
    match r.index.matchName (questionName q) with
    | some set => set ≠ directSet
    | none => false

-- int() of a float cuts the fraction off
def wholeSeconds (q : Rat) : Int := if 0 ≤ q then q.floor else q.ceil

def fillName (r : Resolver) (now : Rat) (name set : String) (outcome : NftOutcome)
    (sets : ChannelSets) : Except String ChannelSets :=
  match r.recent.get? name with
  | none => .ok sets
  | some remembered =>
    let left := wholeSeconds (remembered.expires - now)
    let wanted := steerable remembered.addresses
    if 0 < left ∧ wanted ≠ [] then
      runNft outcome now (TimedSets.fillScript set wanted (left.toNat + setMarginSeconds)) sets
    else .ok sets

def unlearn (r : Resolver) (name : String) : Resolver :=
  if (r.learned.get? name).isSome then
    { r with learned := r.learned.erase name, index := r.index.remove name }
  else r

def takeCname (index : RuleIndex) (e : String × String) : RuleIndex :=
  match index.matchName e.2 with
  | some set => index.add e.1 set
  | none => index

def takeLearned (r : Resolver) (e : String × String) : Resolver :=
  match r.index.matchName e.2 with
  | some set => { r with index := r.index.add e.1 set }
  | none => { r with learned := r.learned.erase e.1 }

def rebuild (r : Resolver) (c : Fields) : Resolver :=
  r.learned.entries.foldl takeLearned
    { r with index := r.cnames.entries.foldl takeCname (RuleIndex.fromConfig c r.lists) }

end Resolver

namespace Steering

def resolve (s : Steering) (now : Rat) (query : Message) (exchange : Except String Message)
    (outcome : NftOutcome) : Steering × Except String Message :=
  match query.question.head? with
  | none => (s, exchange)
  | some q =>
    if s.resolver.refusesIpv6 q then (s, .ok (makeResponse query))
    else
      match exchange with
      | .error e => (s, .error e)
      | .ok response =>
        let facts := answerFacts response
        let r := s.resolver.remember now (questionName q) facts
        match r.index.matchName (questionName q) with
        | none => (⟨r, s.sets⟩, .ok response)
        | some set =>
          let r := r.followTargets set (questionName q) facts.cnameTargets
          match fillAnswer now set response outcome s.sets with
          | .ok sets => (⟨r, sets⟩, .ok (capTtl response).1)
          | .error e => (⟨r, s.sets⟩, .error e)

def answer (s : Steering) (now : Rat) (query : Message) (exchange : Except String Message)
    (outcome : NftOutcome) : Steering × Message :=
  match s.resolve now query exchange outcome with
  | (s', .ok message) => (s', message)
  | (s', .error _) => (s', { makeResponse query with rcode := servfail })

def learn (s : Steering) (now : Rat) (name parent : String) (outcome : NftOutcome) :
    Steering × Except String Bool :=
  match s.resolver.index.matchName parent with
  | none => (s, .ok false)
  | some set =>
    let r := { s.resolver with
      index := s.resolver.index.add name set
      learned := s.resolver.learned.set name parent }
    match r.fillName now name set outcome s.sets with
    | .ok sets => (⟨r, sets⟩, .ok true)
    | .error e => (⟨r, s.sets⟩, .error e)

def replayName (now : Rat) (outcome : String → NftOutcome) (s : Steering) (name : String) :
    Except (Steering × String) Steering :=
  match s.resolver.index.matchName name with
  | none => .ok s
  | some set =>
    match s.resolver.fillName now name set (outcome name) s.sets with
    | .ok sets => .ok { s with sets := sets }
    | .error e => .error (s, e)

def replay (s : Steering) (now : Rat) (outcome : String → NftOutcome) :
    Steering × Except String Unit :=
  match s.resolver.recent.keys.foldlM (replayName now outcome) s with
  | .ok s' => (s', .ok ())
  | .error (s', e) => (s', .error e)

def reload (s : Steering) (c : Fields) (now : Rat) (outcome : String → NftOutcome) :
    Steering × Except String Unit :=
  { s with resolver := s.resolver.rebuild c }.replay now outcome

def setLists (s : Steering) (c : Fields) (lists : FetchedLists) (now : Rat)
    (outcome : String → NftOutcome) : Steering × Except String Unit :=
  { s with resolver := { s.resolver with lists := lists } }.reload c now outcome

end Steering

theorem runNft_ok {outcome : NftOutcome} {now : Rat} {set : String} {wanted : List IPv4Address}
    {timeout : Nat} (ht : 0 < timeout) {sets after : ChannelSets} :
    runNft outcome now (TimedSets.fillScript set wanted timeout) sets = .ok after ↔
      outcome = .loaded ∧ after = sets.fill now set wanted timeout := by
  cases outcome with
  | loaded => simp [runNft, TimedSets.transaction_fillScript ht, eq_comm]
  | missing => simp [runNft]
  | failed stderr => simp [runNft]

theorem capTtl_some {response : Message} (h : steerable (answerFacts response).addresses ≠ []) :
    ∃ ttl, (capTtl response).2 = some ttl := by
  have hne : (response.answer.map RRset.cap).map RRset.ttl ≠ [] := by
    intro hn
    rw [List.map_eq_nil_iff, List.map_eq_nil_iff] at hn
    simp [answerFacts, steerable, hn] at h
  exact ⟨_, List.min?_eq_some_min hne⟩

theorem fillAnswer_ok {now : Rat} {set : String} {response : Message} {outcome : NftOutcome}
    {sets after : ChannelSets} : fillAnswer now set response outcome sets = .ok after ↔
      (steerable (answerFacts response).addresses = [] ∧ after = sets) ∨
      ∃ ttl, (capTtl response).2 = some ttl ∧ steerable (answerFacts response).addresses ≠ [] ∧
        outcome = .loaded ∧ after = sets.fill now set (steerable (answerFacts response).addresses)
          (ttl + setMarginSeconds) := by
  by_cases hw : steerable (answerFacts response).addresses = []
  · rw [fillAnswer]
    cases (capTtl response).2 <;> simp [hw, eq_comm]
  · obtain ⟨ttl, ht⟩ := capTtl_some hw
    have hpos : 0 < ttl + setMarginSeconds := Nat.lt_add_left ttl (by decide)
    simp only [fillAnswer, ht, hw, if_false, runNft_ok hpos, false_and, false_or]
    simp [hw]

theorem Resolver.remember_eq (r : Resolver) (now : Rat) (qname : String) (facts : AnswerFacts) :
    ∃ recent, r.remember now qname facts = { r with recent := recent } := by
  rw [Resolver.remember]
  split
  · exact ⟨_, rfl⟩
  · split <;> exact ⟨_, rfl⟩

theorem Resolver.rebuild_recent (r : Resolver) (c : Fields) : (r.rebuild c).recent = r.recent := by
  have h : ∀ (entries : List (String × String)) (t : Resolver),
      (entries.foldl Resolver.takeLearned t).recent = t.recent := by
    intro entries
    induction entries with
    | nil => intro t; rfl
    | cons e entries ih =>
      intro t
      rw [List.foldl_cons, ih, Resolver.takeLearned]
      split <;> rfl
  rw [Resolver.rebuild, h]

namespace Resolver

def learnedPass (index : RuleIndex) : List (String × String) → RuleIndex × List (String × String)
  | [] => (index, [])
  | e :: entries =>
    match index.matchName e.2 with
    | some set =>
      ((learnedPass (index.add e.1 set) entries).1, e :: (learnedPass (index.add e.1 set) entries).2)
    | none => learnedPass index entries

theorem learnedPass_again (index : RuleIndex) (entries : List (String × String)) :
    learnedPass index (learnedPass index entries).2 = learnedPass index entries := by
  induction entries generalizing index with
  | nil => rfl
  | cons e entries ih =>
    cases hm : index.matchName e.2 with
    | none => simp only [learnedPass, hm, ih]
    | some set => simp only [learnedPass, hm, ih]

theorem foldl_takeLearned (entries kept : List (String × String)) (r : Resolver)
    (h : r.learned.entries = kept ++ entries) :
    (entries.foldl takeLearned r).index = (learnedPass r.index entries).1 ∧
      (entries.foldl takeLearned r).learned.entries = kept ++ (learnedPass r.index entries).2 := by
  induction entries generalizing kept r with
  | nil => exact ⟨rfl, h⟩
  | cons e entries ih =>
    rw [List.foldl_cons]
    cases hm : r.index.matchName e.2 with
    | none =>
      have hn := r.learned.nodup
      rw [h, List.map_append, List.map_cons, List.nodup_append, List.nodup_cons] at hn
      obtain ⟨-, ⟨hrest, -⟩, hkept⟩ := hn
      have he : (r.learned.erase e.1).entries = kept ++ entries := by
        show r.learned.entries.filter (fun x => x.1 ≠ e.1) = kept ++ entries
        rw [h, List.filter_append, List.filter_cons_of_neg (by simp),
          List.filter_eq_self.mpr, List.filter_eq_self.mpr]
        · intro x hx
          have hne : x.1 ≠ e.1 := fun hc => hrest (hc ▸ List.mem_map_of_mem hx)
          simpa using hne
        · intro x hx
          have hne : x.1 ≠ e.1 := hkept _ (List.mem_map_of_mem hx) _ List.mem_cons_self
          simpa using hne
      have hr := ih kept { r with learned := r.learned.erase e.1 } he
      simp only [takeLearned, learnedPass, hm]
      exact hr
    | some set =>
      have hr := ih (kept ++ [e]) { r with index := r.index.add e.1 set } (by simp [h])
      simp only [takeLearned, learnedPass, hm]
      rw [List.append_assoc] at hr
      exact hr

theorem foldl_takeLearned_rest (entries : List (String × String)) (r : Resolver) :
    (entries.foldl takeLearned r).cnames = r.cnames ∧
      (entries.foldl takeLearned r).lists = r.lists := by
  induction entries generalizing r with
  | nil => exact ⟨rfl, rfl⟩
  | cons e entries ih =>
    have hr := ih (takeLearned r e)
    rw [List.foldl_cons, hr.1, hr.2, takeLearned]
    split <;> exact ⟨rfl, rfl⟩

def ownIndex (r : Resolver) (c : Fields) : RuleIndex :=
  r.cnames.entries.foldl takeCname (RuleIndex.fromConfig c r.lists)

theorem rebuild_eq (r : Resolver) (c : Fields) :
    (r.rebuild c).index = (learnedPass (r.ownIndex c) r.learned.entries).1 ∧
      (r.rebuild c).learned.entries = (learnedPass (r.ownIndex c) r.learned.entries).2 ∧
      (r.rebuild c).cnames = r.cnames ∧ (r.rebuild c).lists = r.lists := by
  have h := foldl_takeLearned r.learned.entries [] { r with index := r.ownIndex c } rfl
  exact ⟨h.1, h.2, foldl_takeLearned_rest _ _⟩

theorem rebuild_rebuild (r : Resolver) (c : Fields) :
    ((r.rebuild c).rebuild c).index = (r.rebuild c).index := by
  obtain ⟨hi, hl, hc, hf⟩ := r.rebuild_eq c
  have ho : (r.rebuild c).ownIndex c = r.ownIndex c := by rw [ownIndex, hc, hf, ownIndex]
  rw [((r.rebuild c).rebuild_eq c).1, ho, hl, learnedPass_again, hi]

end Resolver

namespace Steering

theorem resolve_matched {s : Steering} (now : Rat) {query : Message} (response : Message)
    {q : Question} (hq : query.question.head? = some q) {set : String}
    (hm : s.resolver.index.matchName (questionName q) = some set)
    (hr : s.resolver.refusesIpv6 q = false) (outcome : NftOutcome) :
    s.resolve now query (.ok response) outcome =
      match fillAnswer now set response outcome s.sets with
      | .ok sets =>
        (⟨(s.resolver.remember now (questionName q) (answerFacts response)).followTargets set
          (questionName q) (answerFacts response).cnameTargets, sets⟩, .ok (capTtl response).1)
      | .error e =>
        (⟨(s.resolver.remember now (questionName q) (answerFacts response)).followTargets set
          (questionName q) (answerFacts response).cnameTargets, s.sets⟩, .error e) := by
  have hi : (s.resolver.remember now (questionName q) (answerFacts response)).index =
      s.resolver.index := by
    obtain ⟨recent, he⟩ := s.resolver.remember_eq now (questionName q) (answerFacts response)
    rw [he]
  simp only [resolve, hq, hr, hi, hm, Bool.false_eq_true, if_false]

theorem resolve_unmatched {s : Steering} (now : Rat) {query : Message} (response : Message)
    {q : Question} (hq : query.question.head? = some q)
    (hm : s.resolver.index.matchName (questionName q) = none) (outcome : NftOutcome) :
    s.resolve now query (.ok response) outcome =
      (⟨s.resolver.remember now (questionName q) (answerFacts response), s.sets⟩, .ok response) := by
  have hi : (s.resolver.remember now (questionName q) (answerFacts response)).index =
      s.resolver.index := by
    obtain ⟨recent, he⟩ := s.resolver.remember_eq now (questionName q) (answerFacts response)
    rw [he]
  have hr : s.resolver.refusesIpv6 q = false := by simp [Resolver.refusesIpv6, hm]
  simp only [resolve, hq, hr, hi, hm, Bool.false_eq_true, if_false]

theorem resolve_refused {s : Steering} {now : Rat} {query : Message} {q : Question}
    (hq : query.question.head? = some q) (hr : s.resolver.refusesIpv6 q = true)
    (exchange : Except String Message) (outcome : NftOutcome) :
    s.resolve now query exchange outcome = (s, .ok (makeResponse query)) := by
  simp only [resolve, hq, hr, if_true]

end Steering

theorem runNft_isOk {outcome : NftOutcome} {now : Rat} {set : String} {wanted : List IPv4Address}
    {timeout : Nat} (ht : 0 < timeout) {sets : ChannelSets} :
    (∃ after, runNft outcome now (TimedSets.fillScript set wanted timeout) sets = .ok after) ↔
      outcome = .loaded := by
  simp [runNft_ok ht]

def Resolver.Due (r : Resolver) (now : Rat) (name : String) : Prop :=
  ∃ remembered, r.recent.get? name = some remembered ∧
    0 < wholeSeconds (remembered.expires - now) ∧ steerable remembered.addresses ≠ []

theorem Resolver.fillName_isOk {r : Resolver} {now : Rat} {name : String} {outcome : NftOutcome}
    (set : String) (sets : ChannelSets) :
    (∃ after, r.fillName now name set outcome sets = .ok after) ↔
      (r.Due now name → outcome = .loaded) := by
  rw [Resolver.fillName, Resolver.Due]
  cases hr : r.recent.get? name with
  | none => simp
  | some remembered =>
    simp only [Option.some.injEq, exists_eq_left']
    by_cases hd : 0 < wholeSeconds (remembered.expires - now) ∧
        steerable remembered.addresses ≠ []
    · have hpos : 0 < (wholeSeconds (remembered.expires - now)).toNat + setMarginSeconds :=
        Nat.lt_add_left _ (by decide)
      rw [if_pos hd, runNft_isOk hpos, imp_iff_right hd]
    · rw [if_neg hd]
      simp [hd]

namespace Steering

def Refills (r : Resolver) (now : Rat) (outcome : String → NftOutcome) (name : String) : Prop :=
  ∀ set, r.index.matchName name = some set → r.Due now name → outcome name = .loaded

theorem replayName_isOk (s : Steering) (now : Rat) (outcome : String → NftOutcome) (name : String) :
    (∃ t, replayName now outcome s name = .ok t) ↔ Refills s.resolver now outcome name := by
  rw [replayName, Refills]
  cases hm : s.resolver.index.matchName name with
  | none => simp
  | some set =>
    simp only [Option.some.injEq, forall_eq']
    rw [← Resolver.fillName_isOk set s.sets]
    cases s.resolver.fillName now name set (outcome name) s.sets <;> simp

theorem replayName_resolver {s : Steering} {now : Rat} {outcome : String → NftOutcome}
    {name : String} :
    (∀ t, replayName now outcome s name = .ok t → t.resolver = s.resolver) ∧
      ∀ e, replayName now outcome s name = .error e → e.1.resolver = s.resolver := by
  rw [replayName]
  cases s.resolver.index.matchName name with
  | none => simp
  | some set =>
    simp only
    cases s.resolver.fillName now name set (outcome name) s.sets <;> simp

theorem reload_isOk (s : Steering) (c : Fields) (now : Rat) (outcome : String → NftOutcome) :
    (s.reload c now outcome).2 = .ok () ↔
      ∀ name ∈ s.resolver.recent.keys, Refills (s.resolver.rebuild c) now outcome name := by
  have hrecent : (s.resolver.rebuild c).recent = s.resolver.recent := s.resolver.rebuild_recent c
  have h := foldlM_isOk (f := replayName now outcome)
    (P := fun t => t.resolver = s.resolver.rebuild c) (Q := Refills (s.resolver.rebuild c) now outcome)
    (fun t name u ht hu => (replayName_resolver.1 u hu).trans ht)
    (fun t name ht => ht ▸ t.replayName_isOk now outcome name)
    s.resolver.recent.keys (s := { s with resolver := s.resolver.rebuild c }) rfl
  rw [← h, reload, replay, hrecent]
  split
  · rename_i t ht
    simp [ht]
  · rename_i t e ht
    simp [ht]

end Steering

theorem Resolver.refusesIpv6_iff {r : Resolver} {q : Question} {set : String}
    (hm : r.index.matchName (questionName q) = some set) (hd : set ≠ directSet) :
    r.refusesIpv6 q = true ↔ q.rdtype = .aaaa := by
  simp [refusesIpv6, hm, hd]

end VibeDPN
