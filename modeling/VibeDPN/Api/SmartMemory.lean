import VibeDPN.Api.SmartLoop

namespace VibeDPN

open Text

structure Followed (r r' : Resolver) (targets : List String) : Prop where
  learned : r'.learned = r.learned
  lists : r'.lists = r.lists
  cnames : ∀ key ∈ r'.cnames.keys, key ∈ r.cnames.keys ∨ key ∈ targets
  cnames_kept : ∀ key ∈ r.cnames.keys, key ∈ r'.cnames.keys
  index : ∀ key ∈ r'.index.keys, key ∈ r.index.keys ∨ ∃ t ∈ r'.cnames.keys, key = indexKey t
  index_kept : ∀ key ∈ r.index.keys, key ∈ r'.index.keys

namespace Followed

theorem refl (r : Resolver) (targets : List String) : Followed r r targets :=
  ⟨rfl, rfl, fun _ h => .inl h, fun _ h => h, fun _ h => .inl h, fun _ h => h⟩

theorem trans {r r' r'' : Resolver} {targets : List String} (h : Followed r r' targets)
    (h' : Followed r' r'' targets) : Followed r r'' targets where
  learned := h'.learned.trans h.learned
  lists := h'.lists.trans h.lists
  cnames := fun key hk => (h'.cnames key hk).elim (h.cnames key) .inr
  cnames_kept := fun key hk => h'.cnames_kept key (h.cnames_kept key hk)
  index := fun key hk => by
    rcases h'.index key hk with hk | hk
    · rcases h.index key hk with hk | ⟨t, ht, he⟩
      · exact .inl hk
      · exact .inr ⟨t, h'.cnames_kept t ht, he⟩
    · exact .inr hk
  index_kept := fun key hk => h'.index_kept key (h.index_kept key hk)

theorem remember (r : Resolver) (now : Rat) (qname : String) (facts : AnswerFacts)
    (targets : List String) : Followed r (r.remember now qname facts) targets := by
  obtain ⟨recent, he⟩ := r.remember_eq now qname facts
  rw [he]
  exact ⟨rfl, rfl, fun _ h => .inl h, fun _ h => h, fun _ h => .inl h, fun _ h => h⟩

theorem follow (r : Resolver) (set qname target : String) {targets : List String}
    (ht : target ∈ targets) : Followed r (Resolver.follow set qname r target) targets := by
  rw [Resolver.follow]
  split
  · refine ⟨rfl, rfl, fun key hk => ?_, fun key hk => ?_, fun key hk => ?_, fun key hk => ?_⟩
    · rcases Dict.mem_keys_set.mp hk with rfl | hk
      · exact .inr ht
      · exact .inl hk
    · exact Dict.mem_keys_set.mpr (.inr hk)
    · rcases mem_keys_add hk with rfl | hk
      · exact .inr ⟨target, Dict.mem_keys_set.mpr (.inl rfl), rfl⟩
      · exact .inl hk
    · exact Dict.mem_keys_set.mpr (.inr hk)
  · exact refl r targets

theorem followAll (set qname : String) {targets : List String} (chain : List String) (r : Resolver)
    (ht : ∀ target ∈ chain, target ∈ targets) :
    Followed r (r.followTargets set qname chain) targets := by
  rw [Resolver.followTargets]
  induction chain generalizing r with
  | nil => exact refl r targets
  | cons target chain ih =>
    rw [List.foldl_cons]
    exact (follow r set qname target (ht target (by simp))).trans
      (ih _ fun t h => ht t (by simp [h]))

end Followed

def chainOf (exchange : Except String Message) : List String :=
  match exchange with
  | .ok response => (answerFacts response).cnameTargets
  | .error _ => []

theorem resolve_followed (s : Steering) (now : Rat) (query : Message)
    (exchange : Except String Message) (outcome : NftOutcome) :
    Followed s.resolver (s.resolve now query exchange outcome).1.resolver (chainOf exchange) := by
  cases hq : query.question.head? with
  | none =>
    simp only [Steering.resolve, hq]
    exact .refl _ _
  | some q =>
    cases hr : s.resolver.refusesIpv6 q with
    | true =>
      rw [Steering.resolve_refused hq hr]
      exact .refl _ _
    | false =>
      cases exchange with
      | error e =>
        simp only [Steering.resolve, hq, hr, Bool.false_eq_true, if_false]
        exact .refl _ _
      | ok response =>
        cases hm : s.resolver.index.matchName (questionName q) with
        | none =>
          rw [Steering.resolve_unmatched now response hq hm]
          exact .remember _ _ _ _ _
        | some set =>
          have hf := (Followed.remember s.resolver now (questionName q) (answerFacts response)
            (chainOf (.ok response))).trans
              (Followed.followAll set (questionName q) (answerFacts response).cnameTargets _
                fun _ h => h)
          rw [Steering.resolve_matched now response hq hm hr]
          split
          · exact hf
          · exact hf

inductive Learning (r : Resolver) (name parent : String) :
    Resolver → Except String Bool → Prop
  | refused (h : r.index.matchName parent = none) : Learning r name parent r (.ok false)
  | taken (set : String) (h : r.index.matchName parent = some set) (outcome : Except String Bool)
      (ho : outcome ≠ .ok false) :
      Learning r name parent
        { r with index := r.index.add name set, learned := r.learned.set name parent } outcome

theorem learn_learning (s : Steering) (now : Rat) (name parent : String) (outcome : NftOutcome) :
    Learning s.resolver name parent (s.learn now name parent outcome).1.resolver
      (s.learn now name parent outcome).2 := by
  cases hm : s.resolver.index.matchName parent with
  | none =>
    simp only [Steering.learn, hm]
    exact .refused hm
  | some set =>
    simp only [Steering.learn, hm]
    split
    · exact .taken set hm _ (by simp)
    · exact .taken set hm _ (by simp)

theorem learnedPass_keys {index : RuleIndex} {entries : List (String × String)} {key : String}
    (h : key ∈ (Resolver.learnedPass index entries).1.keys) :
    key ∈ index.keys ∨
      ∃ e ∈ (Resolver.learnedPass index entries).2, key = indexKey e.1 := by
  induction entries generalizing index with
  | nil => exact .inl h
  | cons e entries ih =>
    rw [Resolver.learnedPass] at h ⊢
    split at h
    next set hm =>
      dsimp only
      rcases ih h with hk | ⟨x, hx, he⟩
      · rcases mem_keys_add hk with rfl | hk
        · exact .inr ⟨e, by simp, rfl⟩
        · exact .inl hk
      · exact .inr ⟨x, by simp [hx], he⟩
    next hm => exact ih h

theorem takeCname_keys {index : RuleIndex} {entries : List (String × String)} {key : String}
    (h : key ∈ (entries.foldl Resolver.takeCname index).keys) :
    key ∈ index.keys ∨ ∃ e ∈ entries, key = indexKey e.1 := by
  induction entries generalizing index with
  | nil => exact .inl h
  | cons e entries ih =>
    rw [List.foldl_cons] at h
    rcases ih h with hk | ⟨x, hx, he⟩
    · rw [Resolver.takeCname] at hk
      split at hk
      · rcases mem_keys_add hk with rfl | hk
        · exact .inr ⟨e, by simp, rfl⟩
        · exact .inl hk
      · exact .inl hk
    · exact .inr ⟨x, by simp [hx], he⟩

theorem learnedPass_sublist (index : RuleIndex) (entries : List (String × String)) :
    (Resolver.learnedPass index entries).2.Sublist entries := by
  induction entries generalizing index with
  | nil => exact .slnil
  | cons e entries ih =>
    rw [Resolver.learnedPass]
    split
    · exact (ih _).cons_cons e
    · exact (ih _).cons e

def IndexKnown (c : Fields) (r : Resolver) : Prop :=
  ∀ key ∈ r.index.keys, key ∈ knownKeys c r.lists (r.cnames.keys ++ r.learned.keys)

theorem mem_knownKeys {c : Fields} {lists : FetchedLists} {names : List String} {key : String} :
    key ∈ knownKeys c lists names ↔
      (key ∈ c.ruleNames ∨ key ∈ c.listNames lists) ∨ ∃ name ∈ names, key = indexKey name := by
  simp only [knownKeys, List.mem_append, List.mem_map, eq_comm]

theorem rebuild_known (r : Resolver) (c : Fields) :
    IndexKnown c (r.rebuild c) ∧ (r.rebuild c).cnames = r.cnames ∧ (r.rebuild c).lists = r.lists ∧
      (r.rebuild c).learned.entries.Sublist r.learned.entries := by
  obtain ⟨hi, hl, hc, hf⟩ := r.rebuild_eq c
  refine ⟨fun key hk => ?_, hc, hf, hl ▸ learnedPass_sublist _ _⟩
  rw [mem_knownKeys, hc, hf]
  rw [hi] at hk
  rcases learnedPass_keys hk with hk | ⟨e, he, rfl⟩
  · rcases takeCname_keys hk with hk | ⟨e, he, rfl⟩
    · exact .inl (fromConfig_isSome.mp ((Dict.get?_isSome_iff _ _).mpr hk))
    · exact .inr ⟨e.1, List.mem_append_left _ (List.mem_map_of_mem he), rfl⟩
  · rw [← hl] at he
    exact .inr ⟨e.1, List.mem_append_right _ (List.mem_map_of_mem he), rfl⟩

-- the names core remembers and stores, and the ones the learner holds
structure Memory (ok held : String → Prop) (s : SmartLoop) : Prop where
  known : IndexKnown s.config.toFields s.steering.resolver
  learner : ∀ l ∈ s.learner, ∀ key, (l.1.learned.get? key).isSome → held key
  cnames : ∀ key ∈ s.steering.resolver.cnames.keys, ok key
  learned : ∀ key ∈ s.steering.resolver.learned.keys, ok key
  store : ∀ key ∈ s.store.keys, ok key

def LessonFits (ok held : String → Prop) : Lesson → Prop
  | .learned other _ => ok other ∧ held other
  | .unlearned _ => True

theorem mem_keys_erase {α β : Type} [DecidableEq α] {d : Dict α β} {j k : α} :
    j ∈ (d.erase k).keys ↔ j ≠ k ∧ j ∈ d.keys := by
  rw [← Dict.get?_isSome_iff, Dict.get?_erase, ← Dict.get?_isSome_iff]
  split
  next h => simp [h]
  next h => simp [h]

theorem IndexKnown.unlearn {c : Fields} {r : Resolver} (h : IndexKnown c r) (other : String) :
    IndexKnown c (r.unlearn other) := by
  rw [Resolver.unlearn]
  split
  · intro key hk
    obtain ⟨hne, hk⟩ := mem_keys_erase.mp hk
    rw [mem_knownKeys]
    rcases mem_knownKeys.mp (h key hk) with ho | ⟨n, hn, rfl⟩
    · exact .inl ho
    · refine .inr ⟨n, ?_, rfl⟩
      rcases List.mem_append.mp hn with hn | hn
      · exact List.mem_append_left _ hn
      · exact List.mem_append_right _ (mem_keys_erase.mpr ⟨fun he => hne (he ▸ rfl), hn⟩)
  · exact h

theorem IndexKnown.followed {c : Fields} {r r' : Resolver} {targets : List String}
    (h : IndexKnown c r) (hf : Followed r r' targets) : IndexKnown c r' := by
  intro key hk
  rw [mem_knownKeys, hf.lists, hf.learned]
  rcases hf.index key hk with hk | ⟨t, ht, rfl⟩
  · rcases mem_knownKeys.mp (h key hk) with ho | ⟨n, hn, rfl⟩
    · exact .inl ho
    · refine .inr ⟨n, ?_, rfl⟩
      rcases List.mem_append.mp hn with hn | hn
      · exact List.mem_append_left _ (hf.cnames_kept n hn)
      · exact List.mem_append_right _ hn
  · exact .inr ⟨t, List.mem_append_left _ ht, rfl⟩

theorem IndexKnown.learning {c : Fields} {r r' : Resolver} {other parent : String}
    {outcome : Except String Bool} (h : IndexKnown c r)
    (hl : Learning r other parent r' outcome) : IndexKnown c r' := by
  cases hl with
  | refused => exact h
  | taken set hm _ _ =>
    intro key hk
    rw [mem_knownKeys]
    rcases mem_keys_add hk with rfl | hk
    · exact .inr ⟨other, List.mem_append_right _ (Dict.mem_keys_set.mpr (.inl rfl)), rfl⟩
    · rcases mem_knownKeys.mp (h key hk) with ho | ⟨n, hn, rfl⟩
      · exact .inl ho
      · refine .inr ⟨n, ?_, rfl⟩
        rcases List.mem_append.mp hn with hn | hn
        · exact List.mem_append_left _ hn
        · exact List.mem_append_right _ (Dict.mem_keys_set.mpr (.inr hn))

theorem SmartLoop.currentLearner_learned (s : SmartLoop) (name : String) :
    s.currentLearner.learned.get? name = s.learner.bind fun l => l.1.learned.get? name := by
  rw [currentLearner]
  cases s.learner with
  | none => rfl
  | some l =>
    obtain ⟨l, current⟩ := l
    cases current with
    | true => rfl
    | false => rfl

namespace Memory

variable {ok held : String → Prop} {s : SmartLoop}

theorem current (h : Memory ok held s) (key : String)
    (hk : (s.currentLearner.learned.get? key).isSome) : held key := by
  rw [SmartLoop.currentLearner_learned] at hk
  cases hl : s.learner with
  | none => simp [hl] at hk
  | some l =>
    rw [hl] at hk
    exact h.learner l hl key hk

theorem withLearner (h : Memory ok held s) {l : Learner}
    (hl : ∀ key, (l.learned.get? key).isSome → held key) (current : Bool) : Memory ok held { s with learner := some (l, current) } :=
  ⟨h.known, fun x hx => by rw [← Option.some.inj hx]; exact hl, h.cnames, h.learned, h.store⟩

theorem refresh (h : Memory ok held s) : Memory ok held s.refresh := h.withLearner h.current true

theorem unlearn (h : Memory ok held s) (other : String) :
    Memory ok held { s with steering := s.steering.unlearn other } := by
  have hc : (s.steering.unlearn other).resolver.cnames = s.steering.resolver.cnames := by
    rw [Steering.unlearn, Resolver.unlearn]
    split
    · rfl
    · rfl
  have hl : ∀ key ∈ (s.steering.unlearn other).resolver.learned.keys,
      key ∈ s.steering.resolver.learned.keys := by
    rw [Steering.unlearn, Resolver.unlearn]
    split
    · exact fun key hk => (mem_keys_erase.mp hk).2
    · exact fun key hk => hk
  refine ⟨h.known.unlearn other, h.learner, fun key hk => ?_, fun key hk => h.learned key (hl key hk),
    h.store⟩
  rw [hc] at hk
  exact h.cnames key hk

theorem learning (h : Memory ok held s) {other parent : String} {steering : Steering}
    {outcome : Except String Bool} (ho : ok other)
    (hl : Learning s.steering.resolver other parent steering.resolver outcome) :
    Memory ok held { s with steering := steering } := by
  have hk := h.known.learning hl
  obtain ⟨r, sets⟩ := steering
  dsimp only at hl hk
  cases hl with
  | refused => exact ⟨h.known, h.learner, h.cnames, h.learned, h.store⟩
  | taken set hm _ _ =>
    refine ⟨hk, h.learner, h.cnames, fun key hkey => ?_, h.store⟩
    rcases Dict.mem_keys_set.mp hkey with rfl | hkey
    · exact ho
    · exact h.learned key hkey

theorem stored (h : Memory ok held s) {other parent : String} (ho : ok other) :
    Memory ok held { s with store := s.store.set other parent } :=
  ⟨h.known, h.learner, h.cnames, h.learned, fun key hk => by
    rcases Dict.mem_keys_set.mp hk with rfl | hk
    · exact ho
    · exact h.store key hk⟩

theorem unstored (h : Memory ok held s) (other : String) :
    Memory ok held { s with store := s.store.erase other } :=
  ⟨h.known, h.learner, h.cnames, h.learned, fun key hk => h.store key (mem_keys_erase.mp hk).2⟩

theorem teach (h : Memory ok held s) (env : RoundEnv) {lesson : Lesson} (hq : LessonFits ok held lesson) :
    Memory ok held (s.teach env lesson).1 := by
  cases lesson with
  | learned other parent =>
    have hl := h.learning hq.1 (learn_learning s.steering env.now other parent (env.nft other))
    rw [SmartLoop.teach]
    split
    next steering e he => rw [he] at hl; exact hl
    next steering he => rw [he] at hl; exact hl
    next steering he =>
      rw [he] at hl
      split
      · exact hl
      · exact hl.stored hq.1
  | unlearned other =>
    rw [SmartLoop.teach]
    dsimp only
    split
    · exact h.unlearn other
    · exact (h.unlearn other).unstored other

theorem teachAll (env : RoundEnv) {lessons : List Lesson} :
    ∀ {s : SmartLoop} (learnedFrom : Option String), Memory ok held s →
      (∀ lesson ∈ lessons, LessonFits ok held lesson) →
      Memory ok held (SmartLoop.teachAll env s learnedFrom lessons).1 := by
  induction lessons with
  | nil => exact fun _ h _ => h
  | cons lesson lessons ih =>
    intro s learnedFrom h hq
    have ht := h.teach env (hq lesson (by simp))
    rw [SmartLoop.teachAll]
    split
    next s' e he => rw [he] at ht; exact ht
    next s' taught he =>
      rw [he] at ht
      exact ih _ ht fun l hl => hq l (by simp [hl])

theorem observed (h : Memory ok held s) (e : DnsEvent)
    (hq : ∀ lesson ∈ (s.currentLearner.observe e).2, LessonFits ok held lesson) (key : String)
    (hk : ((s.currentLearner.observe e).1.learned.get? key).isSome) : held key := by
  have ht := s.currentLearner.observe_told e
  cases hr : s.currentLearner.observe e with
  | mk after found =>
    rw [hr] at ht hq hk
    dsimp only at ht hq hk
    cases ht with
    | nothing hl =>
      rw [hl] at hk
      exact h.current key hk
    | learned other parent hfree hparent hl =>
      have hother : ok other ∧ held other := hq (.learned other parent) (by simp)
      rw [hl, Dict.get?_set] at hk
      split at hk
      next he => exact he ▸ hother.2
      next => exact h.current key hk
    | unlearned other hfree hl =>
      rw [hl, Dict.get?_erase] at hk
      split at hk
      · simp at hk
      · exact h.current key hk

theorem handleRecord (h : Memory ok held s) (env : RoundEnv) (record : LogRecord)
    (hq : ∀ lesson ∈ (s.currentLearner.observe record.event).2, LessonFits ok held lesson) :
    Memory ok held (s.handleRecord env record).1 := by
  have ht := teachAll env none (h.withLearner (h.observed record.event hq) true) hq
  rw [SmartLoop.handleRecord]
  split
  next s' e he => rw [he] at ht; exact ht
  next s' learnedFrom he =>
    rw [he] at ht
    exact ⟨ht.known, ht.learner, ht.cnames, ht.learned, ht.store⟩

theorem handleAll (env : RoundEnv) {records : List LogRecord} :
    ∀ {s : SmartLoop}, Memory ok held s →
      (∀ lesson ∈ (SmartLoop.handleAll env s records).2.taught, LessonFits ok held lesson) →
      Memory ok held (SmartLoop.handleAll env s records).1 := by
  induction records with
  | nil => exact fun h _ => h
  | cons record records ih =>
    intro s h hq
    rw [SmartLoop.handleAll] at hq ⊢
    have hr := h.handleRecord env record
    cases hh : s.handleRecord env record with
    | mk s' outcome =>
      rw [hh] at hr
      cases outcome with
      | error e =>
        simp only [hh] at hq ⊢
        exact hr hq
      | ok found =>
        simp only [hh] at hq ⊢
        exact ih (hr fun l hl => hq l (List.mem_append_left _ hl))
          fun l hl => hq l (List.mem_append_right _ hl)

theorem cnamesStored (h : Memory ok held s) (env : RoundEnv) : Memory ok held (s.storeCnames env).1 := by
  have hkeys : ∀ e ∈ s.steering.resolver.cnames.entries, ok e.1 := fun e he =>
    h.cnames e.1 (List.mem_map_of_mem he)
  obtain ⟨hok, herr⟩ := foldlM_invariant
    (f := SmartLoop.storeCname env s.config.toFields s.store.keys)
    (P := fun store : Dict String String => ∀ key ∈ store.keys, ok key) s.steering.resolver.cnames.entries
    (fun store e he hs after hafter => by
      rw [SmartLoop.storeCname] at hafter
      split at hafter
      · cases hafter
        exact hs
      · split at hafter
        · cases hafter
          exact hs
        · split at hafter
          · cases hafter
          · cases hafter
            intro key hk
            rcases Dict.mem_keys_set.mp hk with rfl | hk
            · exact hkeys e he
            · exact hs key hk)
    (fun store e he hs after hafter => by
      rw [SmartLoop.storeCname] at hafter
      split at hafter
      · cases hafter
      · split at hafter
        · cases hafter
        · split at hafter
          · cases hafter
            exact hs
          · cases hafter)
    h.store
  rw [SmartLoop.storeCnames]
  split
  · exact h
  · split
    next store hs => exact ⟨h.known, h.learner, h.cnames, h.learned, hok store hs⟩
    next store e hs => exact ⟨h.known, h.learner, h.cnames, h.learned, herr (store, e) hs⟩

theorem round (h : Memory ok held s) (env : RoundEnv)
    (hq : ∀ lesson ∈ (s.round env).2.taught, LessonFits ok held lesson) :
    Memory ok held (s.round env).1 := by
  rw [SmartLoop.round] at hq ⊢
  dsimp only at hq ⊢
  cases hn : SmartLoop.newRecords env s.refresh.cursor with
  | error e => exact h.refresh
  | ok records =>
    simp only [hn] at hq ⊢
    have ha : _ → Memory ok held (SmartLoop.handleAll env s.refresh records).1 :=
      handleAll env h.refresh
    cases ho : (SmartLoop.handleAll env s.refresh records).2.outcome with
    | error e =>
      simp only [ho] at hq ⊢
      exact ha hq
    | ok found =>
      simp only [ho] at hq ⊢
      cases hc : (SmartLoop.handleAll env s.refresh records).1.storeCnames env with
      | mk s' failed =>
        cases failed with
        | some e =>
          simp only [hc] at hq ⊢
          have hs := (ha hq).cnamesStored env
          rwa [hc] at hs
        | none =>
          simp only [hc] at hq ⊢
          have hs := (ha hq).cnamesStored env
          rwa [hc] at hs

theorem reload (h : Memory ok held s) (c : Config) (lists : FetchedLists) (now : Rat)
    (nft : String → NftOutcome) (learner : Option (Learner × Bool))
    (hl : ∀ l ∈ learner, ∀ key, (l.1.learned.get? key).isSome → held key) :
    Memory ok held { s with
      config := c
      learner := learner
      steering := (s.steering.setLists c.toFields lists now nft).1 } := by
  have hr : (s.steering.setLists c.toFields lists now nft).1.resolver =
      ({ s.steering.resolver with lists := lists } : Resolver).rebuild c.toFields := by
    rw [Steering.setLists, Steering.reload, replay_resolver]
  obtain ⟨hk, hc, hf, hs⟩ := rebuild_known { s.steering.resolver with lists := lists } c.toFields
  rw [← hr] at hk hc hf hs
  refine ⟨hk, hl, fun key hkey => ?_, fun key hkey => ?_, h.store⟩
  · rw [hc] at hkey
    exact h.cnames key hkey
  · exact h.learned key ((hs.map Prod.fst).subset hkey)

theorem forget (h : Memory ok held s) (storeFails : Bool) (other : String) :
    Memory ok held (s.forget storeFails other).1 := by
  have hl : ∀ key, ((s.currentLearner.forget other).learned.get? key).isSome → held key := by
    intro key hk
    rw [Learner.forget, Dict.get?_erase] at hk
    split at hk
    · simp at hk
    · exact h.current key hk
  have hu := (h.withLearner hl true).unlearn other
  rw [SmartLoop.forget]
  dsimp only
  split
  · exact hu
  · exact hu.unstored other

theorem resolve (h : Memory ok held s) (now : Rat) (query : Message)
    (exchange : Except String Message) (outcome : NftOutcome)
    (ht : ∀ target ∈ chainOf exchange, ok target) :
    Memory ok held { s with steering := (s.steering.resolve now query exchange outcome).1 } := by
  have hf := resolve_followed s.steering now query exchange outcome
  refine ⟨h.known.followed hf, h.learner, fun key hk => ?_, fun key hk => ?_, h.store⟩
  · exact (hf.cnames key hk).elim (h.cnames key) (ht key)
  · rw [hf.learned] at hk
    exact h.learned key hk

theorem boot (c : Config) {store : Dict String String} (hs : ∀ key ∈ store.keys, ok key) :
    Memory ok held (SmartLoop.boot c store) where
  known := fun key hk => mem_knownKeys.mpr
    (.inl (fromConfig_isSome.mp ((Dict.get?_isSome_iff _ _).mpr hk)))
  learner := fun l hl => by simp [SmartLoop.boot] at hl
  cnames := fun key hk => by simp [SmartLoop.boot, Dict.empty, Dict.keys] at hk
  learned := fun key hk => by simp [SmartLoop.boot, Dict.empty, Dict.keys] at hk
  store := hs

theorem startName (h : Memory ok held s) (now : Rat) (nft : String → NftOutcome)
    {e : String × String} (he : ok e.1) (hheld : held e.1) :
    (∀ t, s.startName now nft e = .ok t → Memory ok held t) ∧
      ∀ x, s.startName now nft e = .error x → Memory ok held x.1 := by
  have hl := h.learning he (learn_learning s.steering now e.1 e.2 (nft e.1))
  rw [SmartLoop.startName]
  split
  next steering message hs =>
    rw [hs] at hl
    exact ⟨fun t ht => (by cases ht), fun x hx => by cases hx; exact hl⟩
  next steering hs =>
    rw [hs] at hl
    exact ⟨fun t ht => by cases ht; exact hl, fun x hx => (by cases hx)⟩
  next steering hs =>
    rw [hs] at hl
    refine ⟨fun t ht => ?_, fun x hx => (by cases hx)⟩
    cases ht
    refine hl.withLearner (fun key hk => ?_) true
    rw [Learner.remember, Dict.get?_set] at hk
    split at hk
    next hkey => exact hkey ▸ hheld
    next => exact h.current key hk

theorem start (h : Memory ok held s) (hsub : ∀ key, ok key → held key) (now : Rat)
    (nft : String → NftOutcome) (storeFails : Bool) :
    Memory ok held (s.start now nft storeFails) := by
  have hmem : ∀ e ∈ storeNames s.refresh.store, ok e.1 := fun e he =>
    h.store e.1 (List.mem_map_of_mem ((List.perm_insertionSort _ _).mem_iff.mp he))
  obtain ⟨hok, herr⟩ := foldlM_invariant (f := SmartLoop.startName now nft)
    (P := Memory ok held) (storeNames s.refresh.store)
    (fun t e he ht => (ht.startName now nft (hmem e he) (hsub _ (hmem e he))).1)
    (fun t e he ht => (ht.startName now nft (hmem e he) (hsub _ (hmem e he))).2)
    h.refresh
  rw [SmartLoop.start]
  split
  · exact h.refresh
  · split
    next t ht => exact hok t ht
    next t e ht => exact herr (t, e) ht

end Memory

-- a step brings no other names than these: by the chain of an answer, or by a lesson
def StepFits (ok held : String → Prop) (w : SmartWorld) : SmartStep → Prop
  | .resolve _ _ exchange _ => ∀ target ∈ chainOf exchange, ok target
  | .round env => ∀ lesson ∈ (w.loop.round env).2.taught, LessonFits ok held lesson
  | _ => True

theorem Memory.step {ok held : String → Prop} (hsub : ∀ key, ok key → held key) {w : SmartWorld}
    (h : Memory ok held w.loop) {step : SmartStep} (hq : StepFits ok held w step) :
    Memory ok held (w.step step).loop := by
  cases step with
  | resolve now query exchange outcome => exact h.resolve now query exchange outcome hq
  | edit c now nft =>
    have hl : ∀ l ∈ w.loop.learner.map (fun l => (l.1, false)), ∀ key,
        (l.1.learned.get? key).isSome → held key := by
      intro l hl
      obtain ⟨x, hx, rfl⟩ := Option.map_eq_some_iff.mp hl
      exact h.learner x hx
    exact h.reload c w.loop.steering.resolver.lists now nft _ hl
  | setLists lists now nft => exact h.reload w.loop.config lists now nft _ h.learner
  | round env => exact h.round env hq
  | forget other storeFails => exact h.forget storeFails other
  | restart now nft storeFails =>
    exact (Memory.boot w.loop.config h.store).start hsub now nft storeFails

theorem reachable_known (c : Config) (store : Dict String String) (steps : List SmartStep) :
    Memory (fun _ => True) (fun _ => True)
      (steps.foldl SmartWorld.step (SmartWorld.boot c store)).loop := by
  induction steps using List.reverseRecOn with
  | nil => exact Memory.boot c fun _ _ => trivial
  | append_singleton steps step ih =>
    rw [List.foldl_append]
    refine Memory.step (fun _ _ => trivial) ih ?_
    cases step with
    | resolve now query exchange outcome => exact fun _ _ => trivial
    | round env =>
      intro lesson hl
      cases lesson with
      | learned => exact ⟨trivial, trivial⟩
      | unlearned => exact trivial
    | _ => exact trivial

end VibeDPN
