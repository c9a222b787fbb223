import VibeDPN.Lib.Dict
import VibeDPN.Lib.Text

namespace VibeDPN

open Text

def windowSeconds : Rat := 10

def genericParentsLimit : Nat := 3

structure DnsEvent where
  client : String
  name : String
  time : Rat
deriving DecidableEq

inductive Lesson where
  | learned (name parent : String)
  | unlearned (name : String)
deriving DecidableEq

-- the rule domain a name is under, and whether that rule learns
abbrev RuleOf := String → Option (String × Bool)

structure Learner where
  ruleOf : RuleOf
  window : Rat := windowSeconds
  genericParents : Nat := genericParentsLimit
  parents : Dict String (List (String × Rat)) := Dict.empty
  seenAfter : Dict String (Finset String) := Dict.empty
  learned : Dict String String := Dict.empty
  generic : Finset String := ∅

def DnsEvent.plainName (e : DnsEvent) : String := rstripBy (· = '.') (lower e.name)

namespace Learner

def recent (l : Learner) (e : DnsEvent) : List (String × Rat) :=
  ((l.parents.get? e.client).getD []).dropWhile fun p => l.window < e.time - p.2

def candidate (l : Learner) (name : String) (recent : List (String × Rat)) :
    Learner × List Lesson :=
  match recent with
  | [] => (l, [])
  | (parent, _) :: _ =>
      if name ∈ l.generic then (l, [])
      else
        let parents := (recent.map Prod.fst).toFinset
        let followed := (l.seenAfter.get? name).getD ∅ ∪ parents
        let l := { l with seenAfter := l.seenAfter.set name followed }
        if l.genericParents < followed.card then
          ({ l with generic := insert name l.generic, learned := l.learned.erase name },
            if (l.learned.get? name).isSome then [.unlearned name] else [])
        else if (l.learned.get? name).isSome ∨ parents.card ≠ 1 then (l, [])
        else ({ l with learned := l.learned.set name parent }, [.learned name parent])

def observe (l : Learner) (e : DnsEvent) : Learner × List Lesson :=
  let recent := l.recent e
  let l := { l with parents := l.parents.set e.client recent }
  match l.ruleOf e.plainName with
  | some (domain, true) =>
      ({ l with parents := l.parents.set e.client (recent ++ [(domain, e.time)]) }, [])
  | some (_, false) => (l, [])
  | none => l.candidate e.plainName recent

def remember (l : Learner) (name parent : String) : Learner :=
  { l with learned := l.learned.set name parent }

def adopt (l previous : Learner) : Learner :=
  { l with
    seenAfter := previous.seenAfter
    learned := previous.learned
    generic := previous.generic }

def forget (l : Learner) (name : String) : Learner :=
  { l with
    learned := l.learned.erase name
    seenAfter := l.seenAfter.erase name
    generic := l.generic.erase name }

end Learner

inductive LearnerCall where
  | observe (e : DnsEvent)
  | remember (name parent : String)
  | change (rules : RuleOf)
  | forget (name : String)

namespace Learner

-- new rules make a new learner, which adopts the one before
def step (l : Learner) : LearnerCall → Learner
  | .observe e => (l.observe e).1
  | .remember name parent => l.remember name parent
  | .change rules =>
      adopt { ruleOf := rules, window := l.window, genericParents := l.genericParents } l
  | .forget name => l.forget name

end Learner

-- the calls of one core, the last one first
abbrev LearnerHistory := List LearnerCall

section

variable (rules : RuleOf) (window : Rat) (limit : Nat)

def runLearner (h : LearnerHistory) : Learner :=
  h.foldr (fun call l => l.step call) { ruleOf := rules, window := window, genericParents := limit }

def emitted : LearnerHistory → List Lesson
  | .observe e :: h => ((runLearner rules window limit h).observe e).2
  | _ => []

def rulesNow : LearnerHistory → RuleOf
  | [] => rules
  | .change other :: _ => other
  | _ :: h => rulesNow h

-- the learning rules a client asked names of since the last change, with the times
def asked (client : String) : LearnerHistory → List (String × Rat)
  | [] => []
  | .change _ :: _ => []
  | .observe e :: h =>
      match rulesNow rules h e.plainName with
      | some (domain, true) =>
          if e.client = client then (domain, e.time) :: asked client h else asked client h
      | _ => asked client h
  | _ :: h => asked client h

def inWindow (h : LearnerHistory) (e : DnsEvent) : List (String × Rat) :=
  (asked rules e.client h).filter fun p => e.time - p.2 ≤ window

-- the parents a name under no rule was asked after, since it was last forgotten
def followed (name : String) : LearnerHistory → Finset String
  | [] => ∅
  | .forget other :: h => if other = name then ∅ else followed name h
  | .observe e :: h =>
      if e.plainName = name ∧ rulesNow rules h name = none then
        followed name h ∪ ((inWindow rules window h e).map Prod.fst).toFinset
      else followed name h
  | _ :: h => followed name h

structure Justified (h : LearnerHistory) (e : DnsEvent) (name parent : String) : Prop where
  asked_for : name = e.plainName
  parent_asked : ∃ t, (parent, t) ∈ asked rules e.client h ∧ e.time - t ≤ window
  parent_alone : ∀ p ∈ asked rules e.client h, e.time - p.2 ≤ window → p.1 = parent
  free : rulesNow rules h name = none
  few : (followed rules window name (.observe e :: h)).card ≤ limit

end

def Timely : LearnerHistory → Prop
  | [] => True
  | .observe e :: h => (∀ f, .observe f ∈ h → f.time ≤ e.time) ∧ Timely h
  | .remember _ _ :: h => (∀ f, .observe f ∉ h) ∧ Timely h
  | _ :: h => Timely h

theorem Timely.tail {call : LearnerCall} {h : LearnerHistory} (ht : Timely (call :: h)) :
    Timely h := by
  cases call with
  | observe e => exact ht.2
  | remember name parent => exact ht.2
  | change other => exact ht
  | forget name => exact ht

section

variable {rules : RuleOf} {window : Rat} {limit : Nat} {h : LearnerHistory}

theorem asked_observed {client : String} {p : String × Rat} (hp : p ∈ asked rules client h) :
    ∃ f, .observe f ∈ h ∧ f.time = p.2 := by
  induction h with
  | nil => simp [asked] at hp
  | cons call h ih =>
    have hlater : p ∈ asked rules client h → ∃ f, .observe f ∈ call :: h ∧ f.time = p.2 := by
      intro hp
      obtain ⟨f, hf, ht⟩ := ih hp
      exact ⟨f, List.mem_cons_of_mem _ hf, ht⟩
    cases call with
    | observe e =>
      rw [asked] at hp
      split at hp
      · split at hp
        · rcases List.mem_cons.mp hp with rfl | hp
          · exact ⟨e, by simp, rfl⟩
          · exact hlater hp
        · exact hlater hp
      · exact hlater hp
    | remember name parent => exact hlater hp
    | change other => simp [asked] at hp
    | forget name => exact hlater hp

theorem asked_sorted {client : String} (ht : Timely h) :
    (asked rules client h).Pairwise fun p q => q.2 ≤ p.2 := by
  induction h with
  | nil => exact .nil
  | cons call h ih =>
    have hrest := ih ht.tail
    cases call with
    | observe e =>
      rw [asked]
      split
      · split
        · refine .cons (fun q hq => ?_) hrest
          obtain ⟨f, hf, htime⟩ := asked_observed hq
          exact htime ▸ ht.1 f hf
        · exact hrest
      · exact hrest
    | remember name parent => exact hrest
    | change other => exact .nil
    | forget name => exact hrest

theorem expired_sorted {d : List (String × Rat)} (hd : d.Pairwise fun p q => p.2 ≤ q.2)
    (now : Rat) : d.dropWhile (fun p => decide (window < now - p.2)) =
      d.filter fun p => now - p.2 ≤ window := by
  induction d with
  | nil => rfl
  | cons p d ih =>
    obtain ⟨hp, hd⟩ := List.pairwise_cons.mp hd
    by_cases hw : window < now - p.2
    · rw [List.dropWhile_cons_of_pos (by simpa using hw), ih hd, List.filter_cons_of_neg]
      simpa only [decide_eq_true_eq, not_le] using hw
    · rw [List.dropWhile_cons_of_neg (by simpa using hw), eq_comm, List.filter_eq_self]
      intro q hq
      have hle : p.2 ≤ q.2 := by
        rcases List.mem_cons.mp hq with rfl | hq
        · exact le_refl _
        · exact hp q hq
      have := not_lt.mp hw
      rw [decide_eq_true_eq]
      linarith

structure LearnerKept (rules : RuleOf) (window : Rat) (limit : Nat) (h : LearnerHistory) (l : Learner) :
    Prop where
  ruleOf : l.ruleOf = rulesNow rules h
  window_eq : l.window = window
  limit_eq : l.genericParents = limit
  -- what left the window of a client was too old for a query already seen
  recent : ∀ client, ∃ dropped,
    asked rules client h = ((l.parents.get? client).getD []).reverse ++ dropped ∧
      ∀ p ∈ dropped, ∃ f, .observe f ∈ h ∧ window < f.time - p.2
  seen : ∀ name ∉ l.generic, (l.seenAfter.get? name).getD ∅ = followed rules window name h
  apart : ∀ name ∈ l.generic, l.learned.get? name = none

inductive Learner.Candidate (l : Learner) (name : String) (recent : List (String × Rat)) :
    Learner × List Lesson → Prop
  | idle (hidle : recent = [] ∨ name ∈ l.generic) : Candidate l name recent (l, [])
  | generic (followed : Finset String) (hnew : name ∉ l.generic)
      (hf : followed = (l.seenAfter.get? name).getD ∅ ∪ (recent.map Prod.fst).toFinset) :
      Candidate l name recent ({ l with
        seenAfter := l.seenAfter.set name followed
        generic := insert name l.generic
        learned := l.learned.erase name },
        if (l.learned.get? name).isSome then [.unlearned name] else [])
  | known (followed : Finset String) (hnew : name ∉ l.generic)
      (hf : followed = (l.seenAfter.get? name).getD ∅ ∪ (recent.map Prod.fst).toFinset) :
      Candidate l name recent ({ l with seenAfter := l.seenAfter.set name followed }, [])
  | learned (followed : Finset String) (parent : String) (hnew : name ∉ l.generic)
      (hf : followed = (l.seenAfter.get? name).getD ∅ ∪ (recent.map Prod.fst).toFinset)
      (hfew : followed.card ≤ l.genericParents) (hno : l.learned.get? name = none)
      (hone : (recent.map Prod.fst).toFinset = {parent}) :
      Candidate l name recent ({ l with
        seenAfter := l.seenAfter.set name followed
        learned := l.learned.set name parent }, [.learned name parent])

theorem Learner.candidate_cases (l : Learner) (name : String) (recent : List (String × Rat)) :
    l.Candidate name recent (l.candidate name recent) := by
  cases recent with
  | nil => exact .idle (.inl rfl)
  | cons p recent =>
    rw [candidate]
    dsimp only
    split
    next hg => exact .idle (.inr hg)
    next hg =>
      split
      next hmany =>
        exact .generic _ hg rfl
      next hfew =>
        split
        next hknown => exact .known _ hg rfl
        next hlearn =>
          rw [not_or, not_not, Bool.not_eq_true, Option.isSome_eq_false_iff,
            Option.isNone_iff_eq_none] at hlearn
          refine .learned _ p.1 hg rfl (not_lt.mp hfew) hlearn.1 ?_
          obtain ⟨x, hx⟩ := Finset.card_eq_one.mp hlearn.2
          have hp : p.1 ∈ (((p :: recent).map Prod.fst).toFinset) := by simp
          rw [hx] at hp ⊢
          rw [Finset.mem_singleton.mp hp]

namespace LearnerKept

variable {l : Learner} {e : DnsEvent}

theorem sorted (hk : LearnerKept rules window limit h l) (ht : Timely h) (client : String) :
    ((l.parents.get? client).getD []).Pairwise fun p q => p.2 ≤ q.2 := by
  obtain ⟨dropped, ha, _⟩ := hk.recent client
  have hs : (asked rules client h).Pairwise fun p q => q.2 ≤ p.2 := asked_sorted ht
  rw [ha, List.pairwise_append, List.pairwise_reverse] at hs
  exact hs.1

theorem window_parents (hk : LearnerKept rules window limit h l) (ht : Timely (.observe e :: h)) :
    (l.recent e).reverse = inWindow rules window h e := by
  obtain ⟨dropped, ha, hd⟩ := hk.recent e.client
  have hold : dropped.filter (fun p => e.time - p.2 ≤ window) = [] := by
    rw [List.filter_eq_nil_iff]
    intro p hp
    obtain ⟨f, hf, hw⟩ := hd p hp
    have := ht.1 f hf
    rw [decide_eq_true_eq, not_le]
    linarith
  rw [Learner.recent, hk.window_eq, expired_sorted (hk.sorted ht.2 e.client), inWindow, ha,
    List.filter_append, hold, List.append_nil, List.filter_reverse]

theorem expire (hk : LearnerKept rules window limit h l) (client : String) :
    ∃ dropped, asked rules client h =
        (((l.parents.set e.client (l.recent e)).get? client).getD []).reverse ++ dropped ∧
      ∀ p ∈ dropped, ∃ f, .observe f ∈ .observe e :: h ∧ window < f.time - p.2 := by
  obtain ⟨dropped, ha, hd⟩ := hk.recent client
  have hlater : ∀ p ∈ dropped, ∃ f, .observe f ∈ .observe e :: h ∧ window < f.time - p.2 := by
    intro p hp
    obtain ⟨f, hf, hw⟩ := hd p hp
    exact ⟨f, List.mem_cons_of_mem _ hf, hw⟩
  rw [Dict.get?_set]
  split
  next hc =>
    subst hc
    have hsplit := List.takeWhile_append_dropWhile
      (p := fun p : String × Rat => decide (l.window < e.time - p.2))
      (l := (l.parents.get? e.client).getD [])
    refine ⟨(((l.parents.get? e.client).getD []).takeWhile
      (fun p => decide (l.window < e.time - p.2))).reverse ++ dropped, ?_, fun p hp => ?_⟩
    · rw [Option.getD_some, ← List.append_assoc, ← List.reverse_append, Learner.recent, hsplit, ha]
    · rcases List.mem_append.mp hp with hp | hp
      · have hw := List.mem_takeWhile_imp (List.mem_reverse.mp hp)
        exact ⟨e, by simp, hk.window_eq ▸ of_decide_eq_true hw⟩
      · exact hlater p hp
  next => exact ⟨dropped, ha, hlater⟩

theorem candidate {name : String} {recent : List (String × Rat)} {r : Learner × List Lesson}
    (hc : l.Candidate name recent r) {h' : LearnerHistory} (hrules : l.ruleOf = rulesNow rules h')
    (hwindow : l.window = window) (hlimit : l.genericParents = limit)
    (hrecent : ∀ client, ∃ dropped,
      asked rules client h' = ((l.parents.get? client).getD []).reverse ++ dropped ∧
        ∀ p ∈ dropped, ∃ f, .observe f ∈ h' ∧ window < f.time - p.2)
    (hseen : ∀ other ∉ l.generic, followed rules window other h' =
      if other = name then (l.seenAfter.get? other).getD ∅ ∪ (recent.map Prod.fst).toFinset
      else (l.seenAfter.get? other).getD ∅)
    (hapart : ∀ name ∈ l.generic, l.learned.get? name = none) :
    LearnerKept rules window limit h' r.1 := by
  have hset : ∀ (other : String) (names : Finset String),
      names = (l.seenAfter.get? name).getD ∅ ∪ (recent.map Prod.fst).toFinset →
        other ∉ l.generic → ((l.seenAfter.set name names).get? other).getD ∅ =
          followed rules window other h' := by
    intro other names hn ho
    rw [hseen other ho, Dict.get?_set]
    split
    next he => rw [he, hn]; rfl
    next => rfl
  cases hc with
  | idle hidle =>
    refine ⟨hrules, hwindow, hlimit, hrecent, fun other ho => ?_, hapart⟩
    rw [hseen other ho]
    split
    next he =>
      rcases hidle with hr | hg
      · simp [hr]
      · exact absurd (he ▸ hg) ho
    next => rfl
  | generic names hnew hf =>
    refine ⟨hrules, hwindow, hlimit, hrecent, fun other ho => ?_, fun other ho => ?_⟩
    · exact hset other names hf fun hg => ho (Finset.mem_insert_of_mem hg)
    · rw [Dict.get?_erase]
      split
      next => rfl
      next hne => exact hapart other (Finset.mem_of_mem_insert_of_ne ho hne)
  | known names hnew hf =>
    exact ⟨hrules, hwindow, hlimit, hrecent, fun other ho => hset other names hf ho, hapart⟩
  | learned names parent hnew hf hfew hno hone =>
    refine ⟨hrules, hwindow, hlimit, hrecent, fun other ho => hset other names hf ho,
      fun other ho => ?_⟩
    rw [Dict.get?_set_ne _ _ (fun he : other = name => hnew (he ▸ ho))]
    exact hapart other ho

theorem observe (hk : LearnerKept rules window limit h l) (ht : Timely (.observe e :: h)) :
    LearnerKept rules window limit (.observe e :: h) (l.observe e).1 := by
  have hrules : l.ruleOf = rulesNow rules (.observe e :: h) := hk.ruleOf
  rw [Learner.observe]
  dsimp only
  split
  next domain hrule =>
    rw [hk.ruleOf] at hrule
    refine ⟨hrules, hk.window_eq, hk.limit_eq, fun client => ?_, fun name hn => ?_, hk.apart⟩
    · obtain ⟨dropped, ha, hd⟩ := hk.expire (e := e) client
      refine ⟨dropped, ?_, hd⟩
      rw [asked, hrule]
      dsimp only
      rw [ha]
      by_cases hc : client = e.client
      · simp [hc]
      · simp only [Dict.get?_set, if_neg hc, if_neg (Ne.symm hc)]
    · rw [followed, if_neg]
      · exact hk.seen name hn
      · rintro ⟨rfl, hno⟩
        simp [hrule] at hno
  next domain hrule =>
    rw [hk.ruleOf] at hrule
    refine ⟨hrules, hk.window_eq, hk.limit_eq, fun client => ?_, fun name hn => ?_, hk.apart⟩
    · rw [asked, hrule]
      exact hk.expire client
    · rw [followed, if_neg]
      · exact hk.seen name hn
      · rintro ⟨rfl, hno⟩
        simp [hrule] at hno
  next hrule =>
    rw [hk.ruleOf] at hrule
    refine candidate (Learner.candidate_cases _ _ _) hrules hk.window_eq hk.limit_eq
      (fun client => ?_) (fun other ho => ?_) hk.apart
    · rw [asked, hrule]
      exact hk.expire client
    · rw [followed, ← hk.seen other ho, ← hk.window_parents ht]
      by_cases hn : other = e.plainName
      · rw [if_pos ⟨hn.symm, hn ▸ hrule⟩, if_pos hn]
        simp
      · rw [if_neg (fun h => hn h.1.symm), if_neg hn]

theorem remember (hk : LearnerKept rules window limit h l) {name parent : String}
    (hg : l.generic = ∅) :
    LearnerKept rules window limit (.remember name parent :: h) (l.remember name parent) where
  ruleOf := hk.ruleOf
  window_eq := hk.window_eq
  limit_eq := hk.limit_eq
  recent := fun client => by
    obtain ⟨dropped, ha, hd⟩ := hk.recent client
    refine ⟨dropped, ha, fun p hp => ?_⟩
    obtain ⟨f, hf, hw⟩ := hd p hp
    exact ⟨f, List.mem_cons_of_mem _ hf, hw⟩
  seen := hk.seen
  apart := fun other ho => by
    have hno : other ∈ l.generic := ho
    simp [hg] at hno

theorem change (hk : LearnerKept rules window limit h l) (other : RuleOf) :
    LearnerKept rules window limit (.change other :: h) (l.step (.change other)) where
  ruleOf := rfl
  window_eq := hk.window_eq
  limit_eq := hk.limit_eq
  recent := fun client => ⟨[], rfl, by simp⟩
  seen := hk.seen
  apart := hk.apart

theorem forget (hk : LearnerKept rules window limit h l) (name : String) :
    LearnerKept rules window limit (.forget name :: h) (l.forget name) where
  ruleOf := hk.ruleOf
  window_eq := hk.window_eq
  limit_eq := hk.limit_eq
  recent := fun client => by
    obtain ⟨dropped, ha, hd⟩ := hk.recent client
    refine ⟨dropped, ha, fun p hp => ?_⟩
    obtain ⟨f, hf, hw⟩ := hd p hp
    exact ⟨f, List.mem_cons_of_mem _ hf, hw⟩
  seen := fun other ho => by
    rw [Learner.forget, Dict.get?_erase, followed]
    by_cases hn : other = name
    · rw [if_pos hn, if_pos hn.symm]
      rfl
    · rw [if_neg hn, if_neg (Ne.symm hn)]
      exact hk.seen other fun hg => ho (Finset.mem_erase.mpr ⟨hn, hg⟩)
  apart := fun other ho => by
    rw [Learner.forget, Dict.get?_erase]
    split
    next => rfl
    next => exact hk.apart other (Finset.mem_of_mem_erase ho)

end LearnerKept

theorem generic_unobserved (hno : ∀ f, .observe f ∉ h) :
    (runLearner rules window limit h).generic = ∅ := by
  induction h with
  | nil => rfl
  | cons call h ih =>
    have hrest := ih fun f hf => hno f (List.mem_cons_of_mem _ hf)
    cases call with
    | observe e => exact absurd (by simp) (hno e)
    | remember name parent => exact hrest
    | change other => exact hrest
    | forget name =>
      change (runLearner rules window limit h).generic.erase name = ∅
      rw [hrest, Finset.erase_empty]

theorem run_kept (ht : Timely h) : LearnerKept rules window limit h (runLearner rules window limit h) := by
  induction h with
  | nil =>
    exact ⟨rfl, rfl, rfl, fun client => ⟨[], rfl, by simp⟩, fun name hn => rfl, fun name hn => rfl⟩
  | cons call h ih =>
    have hk := ih ht.tail
    cases call with
    | observe e => exact hk.observe ht
    | remember name parent => exact hk.remember (generic_unobserved ht.1)
    | change other => exact hk.change other
    | forget name => exact hk.forget name

def Learner.knows (l : Learner) (name : String) : Prop :=
  (l.learned.get? name).isSome ∨ name ∈ l.generic

theorem Learner.Candidate.keeps {l : Learner} {name : String} {recent : List (String × Rat)}
    {r : Learner × List Lesson} (hc : l.Candidate name recent r) (other : String) :
    (other ∈ l.generic → other ∈ r.1.generic) ∧ (l.knows other → r.1.knows other) := by
  cases hc with
  | idle hidle => exact ⟨id, id⟩
  | generic names hnew hf =>
    refine ⟨Finset.mem_insert_of_mem, ?_⟩
    rintro (hl | hg)
    · by_cases hn : other = name
      · exact .inr (hn ▸ Finset.mem_insert_self _ _)
      · left
        rwa [Dict.get?_erase, if_neg hn]
    · exact .inr (Finset.mem_insert_of_mem hg)
  | known names hnew hf => exact ⟨id, id⟩
  | learned names parent hnew hf hfew hno hone =>
    refine ⟨id, ?_⟩
    rintro (hl | hg)
    · left
      rw [Dict.get?_set]
      split
      next => rfl
      next => exact hl
    · exact .inr hg

theorem Learner.step_keeps (l : Learner) (name : String) {call : LearnerCall}
    (hc : call ≠ .forget name) :
    (name ∈ l.generic → name ∈ (l.step call).generic) ∧ (l.knows name → (l.step call).knows name) := by
  cases call with
  | observe e =>
    rw [step, observe]
    dsimp only
    split
    · exact ⟨id, id⟩
    · exact ⟨id, id⟩
    · exact (candidate_cases { l with parents := l.parents.set e.client (l.recent e) } e.plainName
        (l.recent e)).keeps name
  | remember other parent =>
    refine ⟨id, ?_⟩
    rintro (hl | hg)
    · left
      change ((l.learned.set other parent).get? name).isSome = true
      rw [Dict.get?_set]
      split
      next => rfl
      next => exact hl
    · exact .inr hg
  | change rules => exact ⟨id, id⟩
  | forget other =>
    have hn : name ≠ other := fun h => hc (h ▸ rfl)
    refine ⟨fun hg => Finset.mem_erase.mpr ⟨hn, hg⟩, ?_⟩
    rintro (hl | hg)
    · left
      change ((l.learned.erase other).get? name).isSome = true
      rwa [Dict.get?_erase, if_neg hn]
    · exact .inr (Finset.mem_erase.mpr ⟨hn, hg⟩)

theorem run_keeps {later : LearnerHistory} {name : String} (hf : .forget name ∉ later) :
    (name ∈ (runLearner rules window limit h).generic →
        name ∈ (runLearner rules window limit (later ++ h)).generic) ∧
      ((runLearner rules window limit h).knows name →
        (runLearner rules window limit (later ++ h)).knows name) := by
  induction later with
  | nil => exact ⟨id, id⟩
  | cons call later ih =>
    obtain ⟨hg, hl⟩ := ih fun hm => hf (List.mem_cons_of_mem _ hm)
    have hs := (runLearner rules window limit (later ++ h)).step_keeps name
      (show call ≠ .forget name from fun hc => hf (hc ▸ List.mem_cons_self))
    exact ⟨fun h => hs.1 (hg h), fun h => hs.2 (hl h)⟩

structure Learner.Taught (l : Learner) (e : DnsEvent) (name parent : String) : Prop where
  asked_for : name = e.plainName
  free : l.ruleOf name = none
  unknown : ¬ l.knows name
  one : ((l.recent e).map Prod.fst).toFinset = {parent}
  few : ((l.seenAfter.get? name).getD ∅ ∪ ((l.recent e).map Prod.fst).toFinset).card ≤
    l.genericParents
  taken : (l.observe e).1.learned.get? name = some parent

theorem Learner.observe_free {l : Learner} {e : DnsEvent} (h : l.ruleOf e.plainName = none) :
    l.observe e = candidate { l with parents := l.parents.set e.client (l.recent e) }
      e.plainName (l.recent e) := by
  rw [observe]
  simp only [h]

theorem Learner.observe_ruled {l : Learner} {e : DnsEvent} {rule : String × Bool}
    (h : l.ruleOf e.plainName = some rule) : (l.observe e).2 = [] := by
  obtain ⟨domain, learns⟩ := rule
  rw [observe]
  cases learns with
  | true => simp only [h]
  | false => simp only [h]

theorem Learner.observe_learned {l : Learner} {e : DnsEvent} {name parent : String}
    (h : .learned name parent ∈ (l.observe e).2) : l.Taught e name parent := by
  cases hrule : l.ruleOf e.plainName with
  | some rule =>
    rw [observe_ruled hrule] at h
    simp at h
  | none =>
    have hc := candidate_cases { l with parents := l.parents.set e.client (l.recent e) } e.plainName
      (l.recent e)
    rw [← observe_free hrule] at hc
    cases hr : l.observe e with
    | mk after found =>
      rw [hr] at h hc
      cases hc with
      | idle hidle => simp at h
      | generic names hnew hf =>
        split at h
        · simp at h
        · simp at h
      | known names hnew hf => simp at h
      | learned names other hnew hf hfew hno hone =>
        obtain ⟨rfl, rfl⟩ : name = e.plainName ∧ parent = other := by simpa using h
        refine ⟨rfl, hrule, ?_, hone, hf ▸ hfew, by simp [hr]⟩
        rintro (hl | hg)
        · have hno' : l.learned.get? e.plainName = none := hno
          simp [hno'] at hl
        · exact hnew hg

theorem emitted_learned {name parent : String}
    (hm : .learned name parent ∈ emitted rules window limit h) :
    ∃ e older, h = .observe e :: older ∧
      (runLearner rules window limit older).Taught e name parent := by
  cases h with
  | nil => simp [emitted] at hm
  | cons call older =>
    cases call with
    | observe e => exact ⟨e, older, rfl, Learner.observe_learned hm⟩
    | remember other parent => simp [emitted] at hm
    | change other => simp [emitted] at hm
    | forget other => simp [emitted] at hm

theorem Learner.Taught.justified {e : DnsEvent} {name parent : String}
    (ht : Timely (.observe e :: h))
    (hl : (runLearner rules window limit h).Taught e name parent) :
    Justified rules window limit h e name parent := by
  have hk : LearnerKept rules window limit h (runLearner rules window limit h) := run_kept ht.2
  have hw := hk.window_parents ht
  have hmem : ∀ p, p ∈ (runLearner rules window limit h).recent e ↔
      p ∈ asked rules e.client h ∧ e.time - p.2 ≤ window := by
    intro p
    rw [← List.mem_reverse, hw, inWindow, List.mem_filter, decide_eq_true_eq]
  have hone := hl.one
  refine ⟨hl.asked_for, ?_, fun p hp hlate => ?_, hk.ruleOf ▸ hl.free, ?_⟩
  · have hp : parent ∈ (((runLearner rules window limit h).recent e).map Prod.fst).toFinset := by
      rw [hone]
      exact Finset.mem_singleton_self _
    obtain ⟨p, hrecent, rfl⟩ := List.mem_map.mp (List.mem_toFinset.mp hp)
    exact ⟨p.2, (hmem p).mp hrecent⟩
  · have hp : p.1 ∈ (((runLearner rules window limit h).recent e).map Prod.fst).toFinset :=
      List.mem_toFinset.mpr (List.mem_map.mpr ⟨p, (hmem p).mpr ⟨hp, hlate⟩, rfl⟩)
    rw [hone] at hp
    exact Finset.mem_singleton.mp hp
  · have hfew := hl.few
    have hseen := hk.seen name fun hg => hl.unknown (.inr hg)
    rw [hk.limit_eq, hseen] at hfew
    rw [followed, if_pos ⟨hl.asked_for.symm, hk.ruleOf ▸ hl.free⟩, ← hw]
    simpa using hfew

structure LearnerSound (rules : RuleOf) (window : Rat) (limit : Nat) (h : LearnerHistory) : Prop where
  justified : ∀ e older, h = .observe e :: older → ∀ name parent,
    .learned name parent ∈ emitted rules window limit h →
      Justified rules window limit older e name parent
  apart : ∀ name ∈ (runLearner rules window limit h).generic,
    (runLearner rules window limit h).learned.get? name = none
  generic_stays : ∀ later older, h = later ++ older → ∀ name parent,
    name ∈ (runLearner rules window limit older).generic →
      .learned name parent ∈ emitted rules window limit h → .forget name ∈ later
  once : ∀ later older, h = later ++ older → later ≠ [] → ∀ name parent before,
    .learned name before ∈ emitted rules window limit older →
      .learned name parent ∈ emitted rules window limit h → .forget name ∈ later

theorem learner_sound (rules : RuleOf) (window : Rat) (limit : Nat) (h : LearnerHistory)
    (ht : Timely h) : LearnerSound rules window limit h where
  justified := by
    rintro e older rfl name parent hm
    exact (Learner.observe_learned hm).justified ht
  apart := (run_kept ht).apart
  generic_stays := by
    rintro later older rfl name parent hg hm
    by_contra hf
    obtain ⟨e, rest, hh, hl⟩ := emitted_learned hm
    cases later with
    | nil =>
      rw [List.nil_append] at hh
      subst hh
      have hno : (runLearner rules window limit (.observe e :: rest)).learned.get? name = none :=
        (run_kept ht).apart name hg
      have htaken : (runLearner rules window limit (.observe e :: rest)).learned.get? name =
          some parent := hl.taken
      rw [hno] at htaken
      exact absurd htaken (by simp)
    | cons call later =>
      obtain ⟨rfl, rfl⟩ := List.cons.inj hh
      exact hl.unknown (.inr ((run_keeps fun hm => hf (List.mem_cons_of_mem _ hm)).1 hg))
  once := by
    rintro later older rfl hne name parent before hb hm
    by_contra hf
    obtain ⟨e, rest, hh, hl⟩ := emitted_learned hm
    obtain ⟨f, rest', rfl, hl'⟩ := emitted_learned hb
    obtain ⟨call, later, rfl⟩ := List.exists_cons_of_ne_nil hne
    obtain ⟨rfl, rfl⟩ := List.cons.inj hh
    exact hl.unknown ((run_keeps fun hm => hf (List.mem_cons_of_mem _ hm)).2
      (.inl (Option.isSome_iff_exists.mpr ⟨before, hl'.taken⟩)))

end

def siteLearns : RuleOf := fun name => if name = "site.example" then some ("site.example", true) else none

def siteThenCdn : LearnerHistory :=
  [.observe ⟨"10.0.0.2", "cdn.example.", 103⟩, .observe ⟨"10.0.0.2", "site.example", 101⟩,
    .change siteLearns, .remember "old.example" "site.example"]

theorem cdn_sound : LearnerSound siteLearns windowSeconds genericParentsLimit siteThenCdn ∧
    emitted siteLearns windowSeconds genericParentsLimit siteThenCdn =
      [.learned "cdn.example" "site.example"] := by
  refine ⟨learner_sound _ _ _ _ ⟨fun f hf => ?_, fun f hf => ?_, ?_, trivial⟩, by decide +kernel⟩
  · have he : f = ⟨"10.0.0.2", "site.example", 101⟩ := by simpa using hf
    rw [he]
    decide +kernel
  · simp at hf
  · simp

inductive Learner.Told (l : Learner) (e : DnsEvent) (after : Dict String String) :
    List Lesson → Prop
  | nothing (h : after = l.learned) : Told l e after []
  | learned (name parent : String) (hfree : l.ruleOf name = none)
      (hparent : ∃ p ∈ l.recent e, p.1 = parent) (h : after = l.learned.set name parent) :
      Told l e after [.learned name parent]
  | unlearned (name : String) (hfree : l.ruleOf name = none) (h : after = l.learned.erase name) :
      Told l e after [.unlearned name]

theorem Learner.observe_told (l : Learner) (e : DnsEvent) :
    l.Told e (l.observe e).1.learned (l.observe e).2 := by
  cases hrule : l.ruleOf e.plainName with
  | some rule =>
    have hl : (l.observe e).1.learned = l.learned := by
      obtain ⟨domain, learns⟩ := rule
      rw [observe]
      cases learns with
      | true => simp only [hrule]
      | false => simp only [hrule]
    rw [observe_ruled hrule]
    exact .nothing hl
  | none =>
    have hc := candidate_cases { l with parents := l.parents.set e.client (l.recent e) } e.plainName
      (l.recent e)
    rw [← observe_free hrule] at hc
    cases hr : l.observe e with
    | mk after found =>
      rw [hr] at hc
      cases hc with
      | idle hidle => exact .nothing rfl
      | generic names hnew hf =>
        dsimp only
        split
        next => exact .unlearned _ hrule rfl
        next hno =>
          refine .nothing (Dict.erase_of_not_mem fun hk => hno ?_)
          exact (Dict.get?_isSome_iff _ _).mpr hk
      | known names hnew hf => exact .nothing rfl
      | learned names parent hnew hf hfew hno hone =>
        refine .learned _ _ hrule ?_ rfl
        have hp : parent ∈ ((l.recent e).map Prod.fst).toFinset := by
          rw [hone]
          exact Finset.mem_singleton_self _
        obtain ⟨p, hp, he⟩ := List.mem_map.mp (List.mem_toFinset.mp hp)
        exact ⟨p, hp, he⟩

end VibeDPN
