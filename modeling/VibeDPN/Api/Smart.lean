import VibeDPN.Lib.Runs
import VibeDPN.Engine.Resolver

namespace VibeDPN

open Text Inet

-- config: the one the resolver took last; store: learned name to the site it follows
structure SmartState where
  config : Config
  steering : Steering
  store : Dict String String

inductive SmartCall where
  | resolve (now : Rat) (query : Message) (exchange : Except String Message) (outcome : NftOutcome)
  | learn (now : Rat) (name parent : String) (outcome : NftOutcome)
  | unlearn (name : String)
  | reload (c : Config) (now : Rat) (outcome : String → NftOutcome)
  | setLists (c : Config) (lists : FetchedLists) (now : Rat) (outcome : String → NftOutcome)
  | start (now : Rat) (outcome : String → NftOutcome)
  | forget (name : String)
  | record (name parent : String)

-- the rows of the store as names() orders them, by parent and name
def storeNames (store : Dict String String) : List (String × String) :=
  store.entries.insertionSort (fun a b => a.2 < b.2 ∨ (a.2 = b.2 ∧ a.1 ≤ b.1))

def startName (now : Rat) (outcome : String → NftOutcome) (s : Steering) (e : String × String) :
    Except (Steering × String) Steering :=
  match s.learn now e.1 e.2 (outcome e.1) with
  | (s', .ok _) => .ok s'
  | (s', .error err) => .error (s', err)

def smartStart (s : Steering) (store : Dict String String) (now : Rat)
    (outcome : String → NftOutcome) : Steering × Except String Unit :=
  match (storeNames store).foldlM (startName now outcome) s with
  | .ok s' => (s', .ok ())
  | .error (s', e) => (s', .error e)

def Steering.unlearn (s : Steering) (name : String) : Steering :=
  { s with resolver := s.resolver.unlearn name }

def SmartState.step (s : SmartState) : SmartCall → SmartState
  | .resolve now query exchange outcome =>
    { s with steering := (s.steering.resolve now query exchange outcome).1 }
  | .learn now name parent outcome =>
    { s with steering := (s.steering.learn now name parent outcome).1 }
  | .unlearn name => { s with steering := s.steering.unlearn name }
  | .reload c now outcome =>
    { s with config := c, steering := (s.steering.reload c.toFields now outcome).1 }
  | .setLists c lists now outcome =>
    { s with config := c, steering := (s.steering.setLists c.toFields lists now outcome).1 }
  | .start now outcome => { s with steering := (smartStart s.steering s.store now outcome).1 }
  | .forget name => { s with steering := s.steering.unlearn name, store := s.store.erase name }
  | .record name parent => { s with store := s.store.set name parent }

def SmartState.lists (s : SmartState) : FetchedLists := s.steering.resolver.lists

def SmartState.ownerFirst (s : SmartState) : Prop :=
  OwnerFirst s.config.toFields s.lists s.steering.resolver.index

-- everything the index may have an entry for after the configuration and the names are taken
def knownKeys (c : Fields) (lists : FetchedLists) (names : List String) : List String :=
  c.ruleNames ++ c.listNames lists ++ names.map indexKey

-- no name of the owner is taken behind a site that has a channel in this index
def FollowClear (c : Fields) (lists : FetchedLists) (index : RuleIndex) (e : String × String) :
    Prop :=
  index.matchName e.2 = none ∨ ¬ Owned c lists e.1

-- each name kept, with the index the reload has reached when it takes it
structure ReloadClear (r : Resolver) (c : Fields) (lists : FetchedLists) : Prop where
  cnames : EachStep Resolver.takeCname (FollowClear c lists) (RuleIndex.fromConfig c lists)
    r.cnames.entries
  learned : EachStep Resolver.takeLearned (fun r e => FollowClear c lists r.index e)
    { r with index := r.cnames.entries.foldl Resolver.takeCname (RuleIndex.fromConfig c lists) }
    r.learned.entries

-- the names of the store up to one that cannot be filled
def StartClear (c : Fields) (lists : FetchedLists) (now : Rat) (outcome : String → NftOutcome) :
    Steering → List (String × String) → Prop
  | _, [] => True
  | s, e :: entries => FollowClear c lists s.resolver.index e ∧
      ∀ s', startName now outcome s e = .ok s' → StartClear c lists now outcome s' entries

def LearnedClear (s : SmartState) : SmartCall → Prop
  | .learn _ name parent _ =>
    FollowClear s.config.toFields s.lists s.steering.resolver.index (name, parent)
  | .reload c _ _ => ReloadClear s.steering.resolver c.toFields s.lists
  | .setLists c lists _ _ =>
    ReloadClear { s.steering.resolver with lists := lists } c.toFields lists
  | .start now outcome =>
    StartClear s.config.toFields s.lists now outcome s.steering (storeNames s.store)
  | _ => True

structure OwnerKept (c : Config) (r : Resolver) : Prop where
  index : KeepsOwner c.toFields r.lists r.index
  learned : ∀ name ∈ r.learned.keys, ¬ Owned c.toFields r.lists name

namespace OwnerKept

variable {c : Config} {r : Resolver}

theorem remember (h : OwnerKept c r) (now : Rat) (qname : String) (facts : AnswerFacts) :
    OwnerKept c (r.remember now qname facts) := by
  obtain ⟨recent, he⟩ := r.remember_eq now qname facts
  rw [he]
  exact ⟨h.index, h.learned⟩

theorem follow (h : OwnerKept c r) (set qname target : String) :
    OwnerKept c (Resolver.follow set qname r target) := by
  rw [Resolver.follow]
  split
  · rename_i hn
    exact ⟨keepsOwner_add h.index (not_owned_of_unmatched h.index hn) set, h.learned⟩
  · exact h

theorem followTargets (h : OwnerKept c r) (set qname : String) (targets : List String) :
    OwnerKept c (r.followTargets set qname targets) := by
  rw [Resolver.followTargets]
  induction targets generalizing r with
  | nil => exact h
  | cons target targets ih =>
    rw [List.foldl_cons]
    exact ih (h.follow set qname target)

theorem unlearn (h : OwnerKept c r) (name : String) : OwnerKept c (r.unlearn name) := by
  rw [Resolver.unlearn]
  split
  · rename_i hs
    have hk : name ∈ r.learned.keys := (r.learned.get?_isSome_iff name).mp hs
    refine ⟨keepsOwner_remove h.index (h.learned name hk), fun other ho => ?_⟩
    obtain ⟨e, he, rfl⟩ := List.mem_map.mp ho
    exact h.learned e.1 (List.mem_map.mpr ⟨e, (Dict.mem_erase_entries.mp he).1, rfl⟩)
  · exact h

end OwnerKept

theorem resolve_kept {c : Config} {s : Steering} (h : OwnerKept c s.resolver) (now : Rat)
    (query : Message) (exchange : Except String Message) (outcome : NftOutcome) :
    OwnerKept c (s.resolve now query exchange outcome).1.resolver := by
  cases hq : query.question.head? with
  | none => simpa only [Steering.resolve, hq] using h
  | some q =>
    by_cases hr : s.resolver.refusesIpv6 q = true
    · rw [Steering.resolve_refused hq hr]
      exact h
    · rw [Bool.not_eq_true] at hr
      cases exchange with
      | error e => simpa only [Steering.resolve, hq, hr, Bool.false_eq_true, if_false] using h
      | ok response =>
        cases hm : s.resolver.index.matchName (questionName q) with
        | none =>
          rw [Steering.resolve_unmatched now response hq hm]
          exact h.remember _ _ _
        | some set =>
          rw [Steering.resolve_matched now response hq hm hr]
          split
          · exact (h.remember _ _ _).followTargets _ _ _
          · exact (h.remember _ _ _).followTargets _ _ _

theorem learn_kept {c : Config} {s : Steering} (h : OwnerKept c s.resolver) (now : Rat)
    {name parent : String} (outcome : NftOutcome)
    (hg : FollowClear c.toFields s.resolver.lists s.resolver.index (name, parent)) :
    OwnerKept c (s.learn now name parent outcome).1.resolver := by
  cases hm : s.resolver.index.matchName parent with
  | none => simpa only [Steering.learn, hm] using h
  | some set =>
    have hn := hg.resolve_left (by simp [hm])
    have hk : OwnerKept c { s.resolver with
        index := s.resolver.index.add name set
        learned := s.resolver.learned.set name parent } := by
      refine ⟨keepsOwner_add h.index hn set, fun other ho => ?_⟩
      obtain ⟨e, he, rfl⟩ := List.mem_map.mp ho
      rcases Dict.mem_set he with he | rfl
      · exact h.learned e.1 (List.mem_map.mpr ⟨e, he, rfl⟩)
      · exact hn
    simp only [Steering.learn, hm]
    split
    · exact hk
    · exact hk

section

variable {c : Config} {lists : FetchedLists}

theorem takeCname_kept {index : RuleIndex} (h : KeepsOwner c.toFields lists index)
    {e : String × String} (hg : FollowClear c.toFields lists index e) :
    KeepsOwner c.toFields lists (Resolver.takeCname index e) := by
  rw [Resolver.takeCname]
  split
  next set hm => exact keepsOwner_add h (hg.resolve_left (by simp [hm])) set
  next => exact h

theorem cnames_kept {entries : List (String × String)} {index : RuleIndex}
    (h : KeepsOwner c.toFields lists index)
    (hg : EachStep Resolver.takeCname (FollowClear c.toFields lists) index entries) :
    KeepsOwner c.toFields lists (entries.foldl Resolver.takeCname index) :=
  hg.invariant (fun _ _ _ h he => takeCname_kept h he) h

-- what is left of the names is still to be taken, or none of the owner's
def Left (c : Config) (lists : FetchedLists) (r : Resolver) (entries : List (String × String)) :
    Prop :=
  ∀ name ∈ r.learned.keys, name ∈ entries.map Prod.fst ∨ ¬ Owned c.toFields lists name

theorem takeLearned_kept {r : Resolver} {e : String × String} {entries : List (String × String)}
    (hg : FollowClear c.toFields lists r.index e) (h : KeepsOwner c.toFields lists r.index)
    (hl : Left c lists r (e :: entries)) :
    KeepsOwner c.toFields lists (Resolver.takeLearned r e).index ∧
      Left c lists (Resolver.takeLearned r e) entries := by
  rw [Resolver.takeLearned]
  split
  next set hm =>
    have hn := hg.resolve_left (by simp [hm])
    refine ⟨keepsOwner_add h hn set, fun name hname => ?_⟩
    rcases hl name hname with hmem | hno
    · rcases List.mem_cons.mp hmem with rfl | hmem
      · exact .inr hn
      · exact .inl hmem
    · exact .inr hno
  next =>
    refine ⟨h, fun name hname => ?_⟩
    obtain ⟨x, hx, rfl⟩ := List.mem_map.mp hname
    obtain ⟨hx, hne⟩ := Dict.mem_erase_entries.mp hx
    exact (hl x.1 (List.mem_map_of_mem hx)).imp_left
      fun hmem => (List.mem_cons.mp hmem).resolve_left hne

theorem learned_kept {entries : List (String × String)} {r : Resolver}
    (hg : EachStep Resolver.takeLearned (fun r e => FollowClear c.toFields lists r.index e) r
      entries)
    (h : KeepsOwner c.toFields lists r.index) (hl : Left c lists r entries) :
    KeepsOwner c.toFields lists (entries.foldl Resolver.takeLearned r).index ∧
      Left c lists (entries.foldl Resolver.takeLearned r) [] := by
  induction entries generalizing r with
  | nil => exact ⟨h, hl⟩
  | cons e entries ih =>
    obtain ⟨he, hg⟩ := hg
    obtain ⟨h, hl⟩ := takeLearned_kept he h hl
    rw [List.foldl_cons]
    exact ih hg h hl

end

theorem rebuild_kept {c : Config} {r : Resolver} (hg : ReloadClear r c.toFields r.lists) :
    OwnerKept c (r.rebuild c.toFields) := by
  have hstart : KeepsOwner c.toFields r.lists (RuleIndex.fromConfig c.toFields r.lists) :=
    fun _ _ h => h
  have hlists : (r.rebuild c.toFields).lists = r.lists := (r.rebuild_eq c.toFields).2.2.2
  obtain ⟨ho, hl⟩ := learned_kept hg.learned (cnames_kept hstart hg.cnames) fun name hn => .inl hn
  refine ⟨hlists.symm ▸ ho, fun name hn => ?_⟩
  rw [hlists]
  exact (hl name hn).resolve_left List.not_mem_nil

theorem replay_resolver (s : Steering) (now : Rat) (outcome : String → NftOutcome) :
    (s.replay now outcome).1.resolver = s.resolver := by
  obtain ⟨hok, herr⟩ := foldlM_invariant (f := Steering.replayName now outcome)
    (P := fun t => t.resolver = s.resolver) s.resolver.recent.keys
    (fun t name _ ht u hu => (Steering.replayName_resolver.1 u hu).trans ht)
    (fun t name _ ht e he => (Steering.replayName_resolver.2 e he).trans ht)
    rfl
  rw [Steering.replay]
  split
  · rename_i t ht
    exact hok t ht
  · rename_i t e ht
    exact herr (t, e) ht

theorem reload_kept {c : Config} {s : Steering}
    (hg : ReloadClear s.resolver c.toFields s.resolver.lists) (now : Rat)
    (outcome : String → NftOutcome) : OwnerKept c (s.reload c.toFields now outcome).1.resolver := by
  rw [Steering.reload, replay_resolver]
  exact rebuild_kept hg

theorem reload_lists (s : Steering) (c : Fields) (now : Rat) (outcome : String → NftOutcome) :
    (s.reload c now outcome).1.resolver.lists = s.resolver.lists := by
  rw [Steering.reload, replay_resolver]
  exact (s.resolver.rebuild_eq c).2.2.2

theorem learn_lists (s : Steering) (now : Rat) (name parent : String) (outcome : NftOutcome) :
    (s.learn now name parent outcome).1.resolver.lists = s.resolver.lists := by
  cases hm : s.resolver.index.matchName parent with
  | none => simp only [Steering.learn, hm]
  | some set =>
    simp only [Steering.learn, hm]
    split
    · rfl
    · rfl

theorem startName_kept {c : Config} {s : Steering} (h : OwnerKept c s.resolver) (now : Rat)
    (outcome : String → NftOutcome) {e : String × String}
    (hg : FollowClear c.toFields s.resolver.lists s.resolver.index e) :
    (∀ s', startName now outcome s e = .ok s' →
      OwnerKept c s'.resolver ∧ s'.resolver.lists = s.resolver.lists) ∧
      ∀ s' failed, startName now outcome s e = .error (s', failed) → OwnerKept c s'.resolver := by
  have hkept := learn_kept h now (outcome e.1) hg
  have hlists := learn_lists s now e.1 e.2 (outcome e.1)
  rw [startName]
  generalize s.learn now e.1 e.2 (outcome e.1) = learned at hkept hlists
  obtain ⟨left, result⟩ := learned
  cases result with
  | ok _ =>
    refine ⟨fun s' hs => ?_, fun s' failed hs => nomatch hs⟩
    obtain rfl := Except.ok.inj hs
    exact ⟨hkept, hlists⟩
  | error _ =>
    refine ⟨fun s' hs => (nomatch hs), fun s' failed hs => ?_⟩
    obtain ⟨rfl, -⟩ := Prod.mk.inj (Except.error.inj hs)
    exact hkept

theorem start_kept {c : Config} {lists : FetchedLists} {now : Rat} {outcome : String → NftOutcome}
    {entries : List (String × String)} {s : Steering} (h : OwnerKept c s.resolver)
    (hlists : s.resolver.lists = lists) (hg : StartClear c.toFields lists now outcome s entries) :
    (∀ s', entries.foldlM (startName now outcome) s = .ok s' → OwnerKept c s'.resolver) ∧
      ∀ s' e, entries.foldlM (startName now outcome) s = .error (s', e) →
        OwnerKept c s'.resolver := by
  induction entries generalizing s with
  | nil =>
    refine ⟨fun s' hs => ?_, fun s' e hs => nomatch hs⟩
    obtain rfl := Except.ok.inj hs
    exact h
  | cons e entries ih =>
    obtain ⟨he, hrest⟩ := hg
    obtain ⟨hok, herr⟩ := startName_kept h now outcome (hlists ▸ he)
    rw [List.foldlM_cons]
    cases hs : startName now outcome s e with
    | error failed =>
      obtain ⟨left, message⟩ := failed
      have hbind : (Except.error (left, message) >>= fun s => entries.foldlM (startName now outcome) s)
          = .error (left, message) := rfl
      rw [hbind]
      refine ⟨fun s' hs' => (nomatch hs'), fun s' failed hs' => ?_⟩
      obtain ⟨rfl, -⟩ := Prod.mk.inj (Except.error.inj hs')
      exact herr left message hs
    | ok next =>
      obtain ⟨hnext, hkeep⟩ := hok next hs
      exact ih hnext (hkeep.trans hlists) (hrest next hs)

theorem smartStart_kept {c : Config} {s : Steering} {store : Dict String String} {now : Rat}
    {outcome : String → NftOutcome} (h : OwnerKept c s.resolver)
    (hg : StartClear c.toFields s.resolver.lists now outcome s (storeNames store)) :
    OwnerKept c (smartStart s store now outcome).1.resolver := by
  obtain ⟨hok, herr⟩ := start_kept h rfl hg
  rw [smartStart]
  split
  next s' heq => exact hok s' heq
  next s' e heq => exact herr s' e heq

theorem step_kept {s : SmartState} (h : OwnerKept s.config s.steering.resolver) {call : SmartCall}
    (hg : LearnedClear s call) : OwnerKept (s.step call).config (s.step call).steering.resolver := by
  cases call with
  | resolve now query exchange outcome =>
    simp only [SmartState.step]
    exact resolve_kept h now query exchange outcome
  | learn now name parent outcome =>
    simp only [SmartState.step]
    exact learn_kept h now outcome hg
  | unlearn name =>
    simp only [SmartState.step]
    exact h.unlearn name
  | reload c now outcome =>
    simp only [SmartState.step]
    exact reload_kept hg now outcome
  | setLists c lists now outcome =>
    simp only [SmartState.step, Steering.setLists]
    exact reload_kept (s := ⟨{ s.steering.resolver with lists := lists }, s.steering.sets⟩) hg
      now outcome
  | start now outcome =>
    simp only [SmartState.step]
    exact smartStart_kept h hg
  | forget name =>
    simp only [SmartState.step]
    exact h.unlearn name
  | record name parent =>
    simp only [SmartState.step]
    exact h

-- core starts with an index of the configuration and an empty memory; the store is on disk
def smartBoot (c : Config) (store : Dict String String) : SmartState :=
  ⟨c, ⟨{ index := RuleIndex.fromConfig c.toFields Dict.empty }, fun _ _ => none⟩, store⟩

theorem owner_outranks_learned {c : Config} {store : Dict String String} {s : SmartState}
    (h : Guarded SmartState.step LearnedClear (smartBoot c store) s) : s.ownerFirst := by
  have h0 : OwnerKept c (smartBoot c store).steering.resolver :=
    ⟨fun _ _ hk => hk, fun name hn => by simp [smartBoot, Dict.empty, Dict.keys] at hn⟩
  have hk := h.invariant (fun s => OwnerKept s.config s.steering.resolver) h0
    (fun _ _ hk hg => step_kept hk hg)
  exact ownerFirst_of_keeps hk.index

def torRule (domain : DomainName) (via : DomainVia)
    (checked : checkCountryChannel via none none = true) : DomainRule :=
  { domain, via, checked }

def oneSite : Config where
  role := .home
  network := some sampleNetwork
  routing := some
    { mode := .smart
      defaultUpstream := torKey
      domains := [torRule siteName .tor rfl] }
  upstreams := { tor := { enabled := true } }
  valid := by decide

def siteAndCdn : Config where
  role := .home
  network := some sampleNetwork
  routing := some
    { mode := .smart
      defaultUpstream := torKey
      domains := [torRule siteName .tor rfl,
        torRule ⟨"cdn.example", by decide⟩ .direct rfl] }
  upstreams := { tor := { enabled := true } }
  valid := by decide

def cdnLearned : SmartState :=
  (smartBoot oneSite Dict.empty).step (.learn 0 "cdn.example" "site.example" .loaded)

def cdnRecorded : SmartState := cdnLearned.step (.record "cdn.example" "site.example")

def cdnReloaded : SmartState := cdnRecorded.step (.reload oneSite 1 fun _ => .loaded)

theorem cdn_not_owned : ¬ Owned oneSite.toFields Dict.empty "cdn.example" := by decide

theorem cdnRecorded_lists : cdnRecorded.lists = Dict.empty := by
  have h : cdnRecorded.lists = (smartBoot oneSite Dict.empty).lists := by
    simp only [cdnRecorded, cdnLearned, SmartState.lists, SmartState.step, learn_lists]
  exact h.trans rfl

theorem cdnRecorded_cnames : cdnRecorded.steering.resolver.cnames.entries = [] := by decide

theorem cdnRecorded_learned :
    cdnRecorded.steering.resolver.learned.entries = [("cdn.example", "site.example")] := by
  decide

theorem cdnRecorded_reload :
    ReloadClear cdnRecorded.steering.resolver oneSite.toFields cdnRecorded.lists := by
  constructor
  · rw [cdnRecorded_cnames]
    trivial
  · rw [cdnRecorded_learned]
    refine ⟨.inr ?_, trivial⟩
    rw [cdnRecorded_lists]
    exact cdn_not_owned

theorem cdnReloaded_lists : cdnReloaded.lists = Dict.empty := by
  rw [← cdnRecorded_lists]
  simp only [cdnReloaded, SmartState.lists, SmartState.step, reload_lists]

theorem cdnReloaded_stored : storeNames cdnReloaded.store = [("cdn.example", "site.example")] := by
  decide

-- learned and stored, then taken again by a reload and by the next start
theorem cdn_learned_clear : (cdnReloaded.step (.start 2 fun _ => .loaded)).ownerFirst := by
  have hlearned : Guarded SmartState.step LearnedClear (smartBoot oneSite Dict.empty) cdnLearned :=
    .next _ .start (.inr cdn_not_owned)
  have hstored : Guarded SmartState.step LearnedClear (smartBoot oneSite Dict.empty) cdnRecorded :=
    hlearned.next _ trivial
  have hreloaded : Guarded SmartState.step LearnedClear (smartBoot oneSite Dict.empty)
      cdnReloaded := hstored.next _ cdnRecorded_reload
  refine owner_outranks_learned (hreloaded.next _ ?_)
  rw [LearnedClear, cdnReloaded_stored, cdnReloaded_lists]
  exact ⟨.inr cdn_not_owned, fun _ _ => trivial⟩

theorem learned_outranks_rule :
    ¬ ∀ calls : List SmartCall, (calls.foldl SmartState.step (smartBoot oneSite Dict.empty)).ownerFirst := by
  intro h
  have hf := h [.learn 0 "cdn.example" "site.example" .loaded, .reload siteAndCdn 1 (fun _ => .loaded)]
  have hr := hf.rules _ rfl (torRule ⟨"cdn.example", by decide⟩ .direct rfl) (by decide)
    ⟨"cdn.example", by decide⟩ (by decide)
  exact absurd hr (by decide +kernel)

end VibeDPN
