import VibeDPN.Api.SmartMemory

namespace VibeDPN

open Text

def Touches (key name : String) : Prop := key = name ∨ isUnder [indexKey key] name = true

instance (key name : String) : Decidable (Touches key name) := by
  unfold Touches
  infer_instance

theorem underLabels_mono {keys more : List String} (h : ∀ key ∈ keys, key ∈ more)
    (labels : List String) (hu : underLabels keys labels = true) :
    underLabels more labels = true := by
  induction labels with
  | nil => simp [underLabels] at hu
  | cons label labels ih =>
    rw [underLabels, Bool.and_eq_true, Bool.or_eq_true, decide_eq_true_eq, decide_eq_true_eq] at hu ⊢
    exact ⟨hu.1, hu.2.imp (h _) ih⟩

theorem underLabels_split {keys : List String} {labels : List String}
    (hu : underLabels keys labels = true) : ∃ key ∈ keys, underLabels [key] labels = true := by
  induction labels with
  | nil => simp [underLabels] at hu
  | cons label labels ih =>
    rw [underLabels, Bool.and_eq_true, Bool.or_eq_true, decide_eq_true_eq, decide_eq_true_eq] at hu
    rcases hu with ⟨hne, hk | hk⟩
    · exact ⟨_, hk, by simp [underLabels, hne]⟩
    · obtain ⟨key, hkey, hu⟩ := ih hk
      exact ⟨key, hkey, by simp [underLabels, hne, hu]⟩

def SmartLoop.ownNames (s : SmartLoop) : List String :=
  s.config.toFields.ruleNames ++ s.config.toFields.listNames s.steering.resolver.lists

structure Forgotten (s : SmartLoop) (name : String) : Prop where
  store : name ∉ s.store.keys
  learner : ∀ l ∈ s.learner, l.1.learned.get? name = none
  index : isUnder s.ownNames name = false → s.steering.resolver.index.matchName name = none

def Gone (name : String) : SmartLoop → Prop := Memory (fun key => ¬ Touches key name) (· ≠ name)

theorem Gone.forgotten {name : String} {s : SmartLoop} (h : Gone name s) : Forgotten s name where
  store := fun hk => h.store name hk (.inl rfl)
  learner := fun l hl => by
    by_contra hn
    exact h.learner l hl name (Option.isSome_iff_ne_none.mpr hn) rfl
  index := fun hown => by
    by_contra hm
    obtain ⟨set, hset⟩ := Option.ne_none_iff_exists'.mp hm
    obtain ⟨key, hkey, hu⟩ := underLabels_split (under_of_match h.known hset)
    rcases mem_knownKeys.mp hkey with ho | ⟨other, hother, rfl⟩
    · have hkeys : ∀ k ∈ [key], k ∈ s.ownNames := by
        intro k hk
        rw [List.mem_singleton.mp hk]
        exact List.mem_append.mpr ho
      have hunder : isUnder s.ownNames name = true := underLabels_mono hkeys _ hu
      rw [hunder] at hown
      exact absurd hown (by simp)
    · rcases List.mem_append.mp hother with hc | hl
      · exact h.cnames other hc (.inr hu)
      · exact h.learned other hl (.inr hu)

-- no name found behind a CNAME is the name or above it, and no other name kept is
structure ForgetClear (s : SmartLoop) (name : String) : Prop where
  cnames : ∀ key ∈ s.steering.resolver.cnames.keys, ¬ Touches key name
  kept : ∀ key ∈ s.steering.resolver.learned.keys ++ s.store.keys, Touches key name → key = name

theorem forget_gone {s : SmartLoop} {name : String} (hk : IndexKnown s.config.toFields s.steering.resolver)
    (hc : ForgetClear s name) : Gone name (s.forget false name).1 := by
  have hu : (s.steering.unlearn name).resolver.cnames = s.steering.resolver.cnames := by
    rw [Steering.unlearn, Resolver.unlearn]
    split
    · rfl
    · rfl
  refine ⟨hk.unlearn name, fun l hl key hkey => ?_, fun key hkey => ?_, fun key hkey ht => ?_,
    fun key hkey ht => ?_⟩
  · cases hl
    rintro rfl
    rw [Learner.forget, Dict.get?_erase, if_pos rfl] at hkey
    simp at hkey
  · have hkey' : key ∈ (s.steering.unlearn name).resolver.cnames.keys := hkey
    rw [hu] at hkey'
    exact hc.cnames key hkey'
  · have hkey' : key ∈ (s.steering.resolver.unlearn name).learned.keys := hkey
    rw [Resolver.unlearn] at hkey'
    split at hkey'
    next =>
      obtain ⟨hne, hm⟩ := mem_keys_erase.mp hkey'
      exact hne (hc.kept key (List.mem_append_left _ hm) ht)
    next hno =>
      have he := hc.kept key (List.mem_append_left _ hkey') ht
      exact hno ((Dict.get?_isSome_iff _ _).mpr (he ▸ hkey'))
  · obtain ⟨hne, hm⟩ := mem_keys_erase.mp hkey
    exact hne (hc.kept key (List.mem_append_right _ hm) ht)

-- new evidence for a name: an answer whose chain holds it, or one above it, or a lesson of it
def NoEvidence (name : String) : SmartWorld → SmartStep → Prop :=
  StepFits (fun key => ¬ Touches key name) (· ≠ name)

theorem forgotten_stays (c : Config) (store : Dict String String) (before : List SmartStep)
    (name : String) (hc : ForgetClear (before.foldl SmartWorld.step (SmartWorld.boot c store)).loop name)
    (later : List SmartStep)
    (hq : EachStep SmartWorld.step (NoEvidence name)
      ((before.foldl SmartWorld.step (SmartWorld.boot c store)).step (.forget name false)) later) :
    Forgotten (later.foldl SmartWorld.step
      ((before.foldl SmartWorld.step (SmartWorld.boot c store)).step (.forget name false))).loop
      name := by
  have hsub : ∀ key, ¬ Touches key name → key ≠ name := fun key hk he => hk (.inl he)
  let inv : SmartWorld → Prop := fun w => Gone name w.loop
  have hg : inv ((before.foldl SmartWorld.step (SmartWorld.boot c store)).step (.forget name false)) :=
    forget_gone (reachable_known c store before).known hc
  have hstep : ∀ w, ∀ step ∈ later, inv w → NoEvidence name w step → inv (w.step step) :=
    fun w step _ hw hs => Memory.step hsub hw hs
  exact Gone.forgotten (EachStep.invariant hstep hg hq)

def quietPoll (now : Rat) : RoundEnv where
  now := now
  fetch := fun _ => .ok (some [])
  nft := fun _ => .loaded
  storeFails := fun _ => false

def cdnStored : SmartWorld :=
  (SmartWorld.boot oneSite (Dict.empty.set "cdn.example" "site.example")).step
    (.restart 0 (fun _ => .loaded) false)

theorem cdn_forgotten : Forgotten ([SmartStep.round (quietPoll 2),
    .restart 3 (fun _ => .loaded) false].foldl SmartWorld.step
      (cdnStored.step (.forget "cdn.example" false))).loop "cdn.example" := by
  refine forgotten_stays oneSite (Dict.empty.set "cdn.example" "site.example")
    [.restart 0 (fun _ => .loaded) false] "cdn.example" ⟨?_, ?_⟩ _ ⟨?_, trivial, trivial⟩
  · decide +kernel
  · decide +kernel
  · have ht : ((cdnStored.step (.forget "cdn.example" false)).loop.round
        (quietPoll 2)).2.taught = [] := by
      decide +kernel
    intro lesson hl
    have hno : lesson ∈ [] := ht ▸ hl
    simp at hno

def siteByCname : Message where
  question := [⟨"site.example.", .a⟩]
  answer := [⟨60, .cname ["cdn.example."]⟩, ⟨60, .a [0xCB007107#32]⟩]

def cnameForgotten : SmartWorld :=
  [SmartStep.resolve 0 { question := siteByCname.question } (.ok siteByCname) .loaded,
    .round (quietPoll 1), .forget "cdn.example" false].foldl SmartWorld.step
      (SmartWorld.boot oneSite Dict.empty)

theorem cname_name_returns : ¬ Forgotten cnameForgotten.loop "cdn.example" ∧
    "cdn.example" ∈ (cnameForgotten.step (.round (quietPoll 2))).loop.store.keys := by
  refine ⟨fun h => ?_, by decide +kernel⟩
  have hm := h.index (by decide +kernel)
  revert hm
  decide +kernel

end VibeDPN
