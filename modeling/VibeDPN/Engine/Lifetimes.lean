import VibeDPN.Lib.Runs
import VibeDPN.Engine.Resolver

namespace VibeDPN

open Text Inet

-- an address a served answer may still be cached with, and the last moment of that
structure Promise where
  set : String
  address : IPv4Address
  ends : Rat
deriving DecidableEq

structure Clocked where
  steering : Steering
  now : Rat
  promises : List Promise

inductive ResolverCall where
  | pass (seconds : NNRat)
  | resolve (query : Message) (exchange : Except String Message) (outcome : NftOutcome)
  | learn (name parent : String) (outcome : NftOutcome)

def servedAnswer (set : String) (now : Rat) (m : Message) : List Promise :=
  match (m.answer.map RRset.ttl).min? with
  | none => []
  | some ttl => (steerable (answerFacts m).addresses).map (fun a => ⟨set, a, now + ttl⟩)

def served (s : Steering) (now : Rat) (query : Message) : Except String Message → List Promise
  | .error _ => []
  | .ok m =>
    match query.question.head? with
    | none => []
    | some q =>
      match s.resolver.index.matchName (questionName q) with
      | none => []
      | some set => if set = directSet then [] else servedAnswer set now m

def Clocked.step (c : Clocked) : ResolverCall → Clocked
  | .pass seconds => { c with now := c.now + seconds }
  | .resolve query exchange outcome =>
    let result := c.steering.resolve c.now query exchange outcome
    { c with
      steering := result.1
      promises := served c.steering c.now query result.2 ++ c.promises }
  | .learn name parent outcome =>
    { c with steering := (c.steering.learn c.now name parent outcome).1 }

def Steered (c : Clocked) : Prop :=
  ∀ p ∈ c.promises, c.now ≤ p.ends → c.steering.sets.alive c.now p.set p.address = true

structure Fill where
  set : String
  addresses : List IPv4Address
  timeout : Nat
deriving DecidableEq

def ResolverCall.fill? (c : Clocked) : ResolverCall → Option Fill
  | .pass _ => none
  | .resolve query exchange _ => do
    let q ← query.question.head?
    let response ← exchange.toOption
    let set ← c.steering.resolver.index.matchName (questionName q)
    let ttl ← (capTtl response).2
    if c.steering.resolver.refusesIpv6 q ∨ steerable (answerFacts response).addresses = [] then none
    else some ⟨set, steerable (answerFacts response).addresses, ttl + setMarginSeconds⟩
  | .learn name parent _ => do
    let set ← c.steering.resolver.index.matchName parent
    let remembered ← c.steering.resolver.recent.get? name
    let left := Resolver.wholeSeconds (remembered.expires - c.now)
    if 0 < left ∧ steerable remembered.addresses ≠ [] then
      some ⟨set, steerable remembered.addresses, left.toNat + setMarginSeconds⟩
    else none

def ResolverCall.outcome : ResolverCall → NftOutcome
  | .pass _ => .missing
  | .resolve _ _ outcome => outcome
  | .learn _ _ outcome => outcome

-- no shared address gets a timeout that ends before an answer served earlier does
def LongEnough (c : Clocked) (call : ResolverCall) : Prop :=
  ∀ f, call.fill? c = some f → call.outcome = .loaded → ∀ p ∈ c.promises, p.set = f.set →
    p.address ∈ f.addresses → c.now ≤ p.ends → p.ends < c.now + f.timeout

def Fill.apply (f : Fill) (now : Rat) (sets : ChannelSets) : ChannelSets :=
  sets.fill now f.set f.addresses f.timeout

def Fill.take (f : Option Fill) (outcome : NftOutcome) (now : Rat) (sets : ChannelSets) :
    ChannelSets :=
  match f, outcome with
  | some f, .loaded => f.apply now sets
  | _, _ => sets

theorem fill_resolve {c : Clocked} {query response : Message} {q : Question}
    (hq : query.question.head? = some q) {set : String}
    (hm : c.steering.resolver.index.matchName (questionName q) = some set)
    (hr : c.steering.resolver.refusesIpv6 q = false) (outcome : NftOutcome) :
    ResolverCall.fill? c (.resolve query (.ok response) outcome) =
      match (capTtl response).2 with
      | none => none
      | some ttl =>
        if steerable (answerFacts response).addresses = [] then none
        else some ⟨set, steerable (answerFacts response).addresses, ttl + setMarginSeconds⟩ := by
  simp only [ResolverCall.fill?, hq, hm, hr, Option.bind_eq_bind, Option.bind_some,
    Except.toOption, Bool.false_eq_true, false_or]
  cases (capTtl response).2 <;> rfl

theorem fillAnswer_take (now : Rat) (set : String) (response : Message) (outcome : NftOutcome)
    (sets : ChannelSets) :
    (match fillAnswer now set response outcome sets with
      | .ok after => after
      | .error _ => sets) =
    Fill.take
      (match (capTtl response).2 with
      | none => none
      | some ttl =>
        if steerable (answerFacts response).addresses = [] then none
        else some ⟨set, steerable (answerFacts response).addresses, ttl + setMarginSeconds⟩)
      outcome now sets := by
  cases ht : (capTtl response).2 with
  | none => simp [fillAnswer, ht, Fill.take]
  | some ttl =>
    by_cases hw : steerable (answerFacts response).addresses = []
    · simp [fillAnswer, ht, hw, Fill.take]
    · have hpos : 0 < ttl + setMarginSeconds := Nat.lt_add_left ttl (by decide)
      cases outcome with
      | loaded =>
        simp [fillAnswer, ht, hw, Fill.take, Fill.apply, runNft,
          TimedSets.transaction_fillScript hpos]
      | missing => simp [fillAnswer, ht, hw, Fill.take, runNft]
      | failed stderr => simp [fillAnswer, ht, hw, Fill.take, runNft]

theorem resolve_sets (c : Clocked) (query : Message) (exchange : Except String Message)
    (outcome : NftOutcome) :
    (c.steering.resolve c.now query exchange outcome).1.sets =
      Fill.take (ResolverCall.fill? c (.resolve query exchange outcome)) outcome c.now
        c.steering.sets := by
  cases hq : query.question.head? with
  | none => simp [Steering.resolve, ResolverCall.fill?, hq, Fill.take]
  | some q =>
    by_cases hr : c.steering.resolver.refusesIpv6 q = true
    · rw [Steering.resolve_refused hq hr]
      have hn : ResolverCall.fill? c (.resolve query exchange outcome) = none := by
        simp only [ResolverCall.fill?, hq, hr, Option.bind_eq_bind, Option.bind_some, true_or,
          if_true]
        simp
      rw [hn]
      rfl
    · rw [Bool.not_eq_true] at hr
      cases exchange with
      | error e => simp [Steering.resolve, ResolverCall.fill?, hq, hr, Fill.take, Except.toOption]
      | ok response =>
        cases hm : c.steering.resolver.index.matchName (questionName q) with
        | none =>
          rw [Steering.resolve_unmatched c.now response hq hm]
          simp [ResolverCall.fill?, hq, hm, Except.toOption, Fill.take]
        | some set =>
          rw [Steering.resolve_matched c.now response hq hm hr, fill_resolve hq hm hr,
            ← fillAnswer_take]
          cases fillAnswer c.now set response outcome c.steering.sets <;> rfl

theorem learn_sets (c : Clocked) (name parent : String) (outcome : NftOutcome) :
    (c.steering.learn c.now name parent outcome).1.sets =
      Fill.take (ResolverCall.fill? c (.learn name parent outcome)) outcome c.now
        c.steering.sets := by
  cases hm : c.steering.resolver.index.matchName parent with
  | none => simp [Steering.learn, ResolverCall.fill?, hm, Fill.take]
  | some set =>
    cases hg : c.steering.resolver.recent.get? name with
    | none => simp [Steering.learn, ResolverCall.fill?, Resolver.fillName, hm, hg, Fill.take]
    | some remembered =>
      by_cases hl : 0 < Resolver.wholeSeconds (remembered.expires - c.now) ∧
          steerable remembered.addresses ≠ []
      · have hpos : 0 < (Resolver.wholeSeconds (remembered.expires - c.now)).toNat +
            setMarginSeconds := Nat.lt_add_left _ (by decide)
        cases outcome with
        | loaded =>
          simp [Steering.learn, ResolverCall.fill?, Resolver.fillName, hm, hg, hl, Fill.take,
            Fill.apply, runNft, TimedSets.transaction_fillScript hpos]
        | missing =>
          simp [Steering.learn, ResolverCall.fill?, Resolver.fillName, hm, hg, hl, Fill.take, runNft]
        | failed stderr =>
          simp [Steering.learn, ResolverCall.fill?, Resolver.fillName, hm, hg, hl, Fill.take, runNft]
      · simp only [Steering.learn, ResolverCall.fill?, Resolver.fillName, hm, hg, hl, if_false]
        simp [Fill.take, hl]

theorem step_sets (c : Clocked) (call : ResolverCall) :
    (c.step call).steering.sets =
      Fill.take (call.fill? c) call.outcome c.now c.steering.sets := by
  cases call with
  | pass seconds => rfl
  | resolve query exchange outcome =>
    simp only [Clocked.step, ResolverCall.outcome]
    exact resolve_sets c query exchange outcome
  | learn name parent outcome =>
    simp only [Clocked.step, ResolverCall.outcome]
    exact learn_sets c name parent outcome

theorem take_cases {f : Option Fill} {outcome : NftOutcome} {now : Rat} {sets : ChannelSets} :
    Fill.take f outcome now sets = sets ∨ ∃ fill, f = some fill ∧ outcome = .loaded ∧
      Fill.take f outcome now sets = fill.apply now sets := by
  cases f with
  | none => exact .inl (by simp [Fill.take])
  | some fill =>
    cases outcome with
    | loaded => exact .inr ⟨fill, by simp [Fill.take]⟩
    | missing => exact .inl (by simp [Fill.take])
    | failed stderr => exact .inl (by simp [Fill.take])

theorem mem_servedAnswer {set : String} {now : Rat} {m : Message} {p : Promise}
    (h : p ∈ servedAnswer set now m) : ∃ ttl, (m.answer.map RRset.ttl).min? = some ttl ∧
      p.set = set ∧ p.address ∈ steerable (answerFacts m).addresses ∧ p.ends = now + ttl := by
  rw [servedAnswer] at h
  cases ht : (m.answer.map RRset.ttl).min? with
  | none => simp [ht] at h
  | some ttl =>
    simp only [ht, List.mem_map] at h
    obtain ⟨a, ha, rfl⟩ := h
    exact ⟨ttl, rfl, rfl, ha, rfl⟩

theorem mem_served {s : Steering} {now : Rat} {query : Message} {result : Except String Message}
    {p : Promise} (h : p ∈ served s now query result) : ∃ m q set, result = .ok m ∧
      query.question.head? = some q ∧ s.resolver.index.matchName (questionName q) = some set ∧
      p ∈ servedAnswer set now m := by
  cases result with
  | error e => simp [served] at h
  | ok m =>
    cases hq : query.question.head? with
    | none => simp [served, hq] at h
    | some q =>
      cases hm : s.resolver.index.matchName (questionName q) with
      | none => simp [served, hq, hm] at h
      | some set =>
        simp only [served, hq, hm] at h
        split at h
        · simp at h
        · exact ⟨m, q, set, rfl, rfl, hm, h⟩

theorem capTtl_facts (response : Message) :
    (answerFacts (capTtl response).1).addresses = (answerFacts response).addresses := by
  simp [answerFacts, capTtl, List.flatMap_map, RRset.cap]

theorem served_fill {c : Clocked} {query : Message} {exchange : Except String Message}
    {outcome : NftOutcome} {p : Promise}
    (hp : p ∈ served c.steering c.now query
      (c.steering.resolve c.now query exchange outcome).2) :
    ∃ f, ResolverCall.fill? c (.resolve query exchange outcome) = some f ∧ outcome = .loaded ∧
      f.set = p.set ∧ p.address ∈ f.addresses ∧ p.ends < c.now + f.timeout := by
  obtain ⟨m, q, set, hres, hq, hm, hp⟩ := mem_served hp
  obtain ⟨ttl, ht, hset, ha, hends⟩ := mem_servedAnswer hp
  have hr : c.steering.resolver.refusesIpv6 q = false := by
    by_contra hn
    rw [Bool.not_eq_false] at hn
    rw [Steering.resolve_refused hq hn, Except.ok.injEq] at hres
    simp [← hres, makeResponse] at ht
  cases exchange with
  | error e => simp [Steering.resolve, hq, hr] at hres
  | ok response =>
    rw [Steering.resolve_matched c.now response hq hm hr] at hres
    cases hf : fillAnswer c.now set response outcome c.steering.sets with
    | error e => simp [hf] at hres
    | ok after =>
      simp only [hf, Except.ok.injEq] at hres
      subst hres
      rw [capTtl_facts] at ha
      have hw : steerable (answerFacts response).addresses ≠ [] := List.ne_nil_of_mem ha
      have ht' : (capTtl response).2 = some ttl := ht
      have hl : outcome = .loaded := by
        rcases fillAnswer_ok.mp hf with ⟨hn, -⟩ | ⟨_, -, -, hl, -⟩
        · exact absurd hn hw
        · exact hl
      refine ⟨⟨set, steerable (answerFacts response).addresses, ttl + setMarginSeconds⟩, ?_, hl,
        hset.symm, ha, ?_⟩
      · rw [fill_resolve hq hm hr, ht']
        simp [hw]
      · have hmargin : (0 : Rat) < (setMarginSeconds : Nat) := by
          exact_mod_cast (by decide : 0 < setMarginSeconds)
        rw [hends]
        push_cast
        linarith

def Kept (c : Clocked) : Prop :=
  ∀ p ∈ c.promises, c.now ≤ p.ends →
    ∃ expires, c.steering.sets p.set p.address = some expires ∧ p.ends < expires

theorem steered_of_kept {c : Clocked} (h : Kept c) : Steered c := by
  intro p hp hn
  obtain ⟨expires, he, hlt⟩ := h p hp hn
  exact TimedSets.alive_iff.mpr ⟨expires, he, hn.trans_lt hlt⟩

theorem kept_sets {c : Clocked} (h : Kept c) {call : ResolverCall} (hg : LongEnough c call) :
    ∀ p ∈ c.promises, c.now ≤ p.ends → ∃ expires,
      (c.step call).steering.sets p.set p.address = some expires ∧ p.ends < expires := by
  intro p hp hn
  rw [step_sets]
  rcases take_cases with he | ⟨f, hf, hl, he⟩
  · rw [he]
    exact h p hp hn
  · rw [he, Fill.apply]
    by_cases hm : p.set = f.set ∧ p.address ∈ f.addresses
    · rw [hm.1]
      exact ⟨_, TimedSets.fill_of_mem hm.2, hg f hf hl p hp hm.1 hm.2 hn⟩
    · rw [TimedSets.fill_of_not hm]
      exact h p hp hn

theorem kept_step {c : Clocked} (h : Kept c) {call : ResolverCall} (hg : LongEnough c call) :
    Kept (c.step call) := by
  have hk := kept_sets h hg
  cases call with
  | pass seconds =>
    intro p hp hn
    simp only [Clocked.step] at hp hn
    have h0 : (0 : Rat) ≤ seconds := seconds.2
    exact hk p hp (by linarith)
  | learn name parent outcome =>
    intro p hp hn
    simp only [Clocked.step] at hp hn
    exact hk p hp hn
  | resolve query exchange outcome =>
    intro p hp hn
    simp only [Clocked.step, List.mem_append] at hp hn
    rcases hp with hp | hp
    · obtain ⟨f, hf, hl, hs, ha, hlt⟩ := served_fill hp
      rw [step_sets, hf, ResolverCall.outcome, hl, ← hs]
      exact ⟨c.now + f.timeout, TimedSets.fill_of_mem ha, hlt⟩
    · exact hk p hp hn

def bootClock (r : Resolver) : Clocked := ⟨⟨r, fun _ _ => none⟩, 0, []⟩

theorem answers_stay_steered {r : Resolver} {c : Clocked}
    (h : Guarded Clocked.step LongEnough (bootClock r) c) : Steered c := by
  have h0 : Kept (bootClock r) := fun p hp => by simp [bootClock] at hp
  exact steered_of_kept (h.invariant Kept h0 (fun _ _ hk hg => kept_step hk hg))

theorem step_pass (c : Clocked) (seconds : NNRat) :
    c.step (.pass seconds) = { c with now := c.now + seconds } := by
  simp only [Clocked.step]

theorem step_keeps {c : Clocked} {call : ResolverCall} {f : Fill} (hf : call.fill? c = some f) :
    (c.step call).now = c.now ∧ ∀ p ∈ c.promises, p ∈ (c.step call).promises := by
  cases call with
  | pass seconds => simp [ResolverCall.fill?] at hf
  | resolve query exchange outcome =>
    simp only [Clocked.step]
    exact ⟨trivial, fun p hp => List.mem_append_right _ hp⟩
  | learn name parent outcome =>
    simp only [Clocked.step]
    exact ⟨trivial, fun p hp => hp⟩

-- the guard asks no more than it has to: a call that breaks it ends an answer too early
theorem short_fill_gap {c : Clocked} {call : ResolverCall} (h : ¬ LongEnough c call) :
    ∃ seconds, ¬ Steered ((c.step call).step (.pass seconds)) := by
  simp only [LongEnough, not_forall, not_lt] at h
  obtain ⟨f, hf, hl, p, hp, hs, ha, -, hlt⟩ := h
  obtain ⟨hnow, hprom⟩ := step_keeps hf
  refine ⟨f.timeout, fun hst => ?_⟩
  rw [step_pass, hnow] at hst
  have hal := hst p (hprom p hp) (by exact_mod_cast hlt)
  obtain ⟨expires, he, hn⟩ := TimedSets.alive_iff.mp hal
  simp only [step_sets, hf, hl, Fill.take, Fill.apply, hs] at he
  rw [TimedSets.fill_of_mem ha, Option.some.injEq] at he
  rw [← he] at hn
  simp at hn

def cdnIndex : RuleIndex :=
  RuleIndex.addAll Dict.empty [("a.example", "smart_dpn_any"), ("b.example", "smart_dpn_any")]

def cdnAddress : IPv4Address := 0x5DB8D822#32

def addressQuery (name : String) : Message := { question := [⟨name, .a⟩] }

def addressAnswer (name : String) (ttl : Nat) : Message :=
  { question := [⟨name, .a⟩], answer := [⟨ttl, .a [cdnAddress]⟩] }

def askName (name : String) (ttl : Nat) : ResolverCall :=
  .resolve (addressQuery name) (.ok (addressAnswer name ttl)) .loaded

def cdnStart : Clocked := bootClock { index := cdnIndex }

def cdnShared : Clocked := (cdnStart.step (askName "a.example." 300)).step (.pass 1)

theorem cdn_promised : cdnShared.promises = [⟨"smart_dpn_any", cdnAddress, 300⟩] := by
  decide +kernel

theorem cdn_filled : (askName "b.example." 300).fill? cdnShared =
    some ⟨"smart_dpn_any", [cdnAddress], 300 + setMarginSeconds⟩ := by
  decide +kernel

-- the second site answers with the same address a second later, and for as long
theorem cdn_answer_steered :
    Steered ((cdnShared.step (askName "b.example." 300)).step (.pass 100)) ∧
      ⟨"smart_dpn_any", cdnAddress, 301⟩ ∈
        ((cdnShared.step (askName "b.example." 300)).step (.pass 100)).promises := by
  refine ⟨answers_stay_steered (.next _ (.next _ (.next _ (.next _ .start ?_) ?_) ?_) ?_), ?_⟩
  · intro f _ _ p hp
    simp [cdnStart, bootClock] at hp
  · intro f hf
    simp [ResolverCall.fill?] at hf
  · intro f hf _ p hp _ _ _
    change (askName "b.example." 300).fill? cdnShared = some f at hf
    change p ∈ cdnShared.promises at hp
    rw [cdn_filled] at hf
    rw [cdn_promised, List.mem_singleton] at hp
    have hnow : cdnShared.now = 1 := by decide +kernel
    rw [hp, ← Option.some.inj hf, hnow]
    decide +kernel
  · intro f hf
    simp [ResolverCall.fill?] at hf
  · decide +kernel

-- the second site answers with a TTL of a second and takes the life of the first one's address
def cdnCalls : List ResolverCall :=
  [askName "a.example." 300, .pass 1, askName "b.example." 1, .pass 100]

theorem shared_address_lost :
    ¬ ∀ calls : List ResolverCall, Steered (calls.foldl Clocked.step cdnStart) := by
  intro h
  have hp : ⟨"smart_dpn_any", cdnAddress, 300⟩ ∈ (cdnCalls.foldl Clocked.step cdnStart).promises := by
    decide +kernel
  have hal := h cdnCalls _ hp (by decide +kernel)
  exact absurd hal (by decide +kernel)

end VibeDPN
