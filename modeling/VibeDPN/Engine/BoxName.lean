import VibeDPN.Engine.Adguard
import VibeDPN.ConfigEdit.Spelling
import VibeDPN.Lib.Runs

namespace VibeDPN

open Text

-- AdGuard's file, or the name after it, is not written
inductive AdguardOutcome where
  | completed
  | unwritten
  | cut
deriving DecidableEq

structure AdguardRun where
  config : Config
  hashed : String
  corePassword : Option String
  outcome : AdguardOutcome

def AdguardRun.hostName (r : AdguardRun) : String := r.config.ui.hostName.val

-- state: the text of the remembered name; unrecorded: names published by a run that was cut before
-- it remembered them, and by none since dropped
structure NameBox where
  file : Option AdguardFile
  state : Option String
  names : List String := []
  unrecorded : List String := []

namespace NameBox

variable (coreUserHash : Option String → String → String)

def previous (s : NameBox) : Option String := (s.state.map strip).filter (· ≠ "")

def rewrites (s : NameBox) : List Rewrite := (s.file.map AdguardFile.rewrites).getD []

def target (s : NameBox) (r : AdguardRun) : Option (AdguardFile × Option String) :=
  match ensureAdguard coreUserHash s.file r.config.toFields r.hashed s.previous r.corePassword with
  | .ok target => target
  | .error _ => none

def ours (s : NameBox) (r : AdguardRun) : List String := r.hostName :: s.previous.toList

def dropped (s : NameBox) (r : AdguardRun) : List String :=
  s.unrecorded.filter (· ∉ s.ours r)

def step (s : NameBox) (r : AdguardRun) : NameBox :=
  match s.target coreUserHash r, r.outcome with
  | some (file, name), .completed =>
    { file := some file, state := name, names := r.hostName :: s.names, unrecorded := s.dropped r }
  | some (file, _), .cut =>
    { s with
      file := some file
      names := r.hostName :: s.names
      unrecorded := s.dropped r ++
        if r.config.ui.enabled ∧ s.previous ≠ some r.hostName then [r.hostName] else [] }
  | _, _ => { s with names := r.hostName :: s.names }

def Completes (s : NameBox) (r : AdguardRun) : Prop :=
  r.outcome = .completed ∧ (s.target coreUserHash r).isSome

def published (r : AdguardRun) : List Rewrite :=
  match r.config.network with
  | some network =>
    if r.config.ui.enabled then [⟨r.hostName, network.lanAddress.str, true⟩] else []
  | none => []

-- what AdGuard holds after a run: the name at the address, no earlier name, the owner's entries
structure Converged (owner : List Rewrite) (s : NameBox) (r : AdguardRun) : Prop where
  current : s.rewrites.filter (·.domain = r.hostName) = published r
  earlier : ∀ name ∈ s.names, name ≠ r.hostName → ∀ entry ∈ s.rewrites, entry.domain ≠ name
  kept : s.rewrites.filter (·.domain ∉ s.names) = owner

def Covered (s : NameBox) (r : AdguardRun) : Prop :=
  ∀ name ∈ s.unrecorded, name ∈ s.ours r

structure Tracks (owner : List Rewrite) (s : NameBox) : Prop where
  owned : s.rewrites.filter (·.domain ∉ s.names) = owner
  known : ∀ entry ∈ s.rewrites, entry.domain ∈ s.names →
    entry.domain ∈ s.unrecorded ∨ s.previous = some entry.domain
  present : ∀ name ∈ s.unrecorded, name ∈ s.names ∧ ∃ entry ∈ s.rewrites, entry.domain = name
  remembered : ∀ name ∈ s.previous, name ∈ s.names

variable {coreUserHash} {s : NameBox} {r : AdguardRun} {owner : List Rewrite}

theorem setManaged_rewrites {file file' : AdguardFile} {c : Fields} {hashed : String}
    {corePassword : Option String}
    (h : setManaged coreUserHash file c hashed corePassword = .ok file') :
    file'.rewrites = file.rewrites := by
  rw [setManaged] at h
  cases hn : c.network with
  | none => simp [hn] at h
  | some network =>
    simp only [hn, Except.ok.injEq] at h
    rw [← h]

theorem setBoxName_rewrites {file file' : AdguardFile} {c : Fields} {previous : Option String}
    (h : setBoxName file c previous = .ok file') : ∃ network, c.network = some network ∧
      file'.rewrites = file.rewrites.filter (·.domain ∉ c.ui.hostName.val :: previous.toList) ++
        if c.ui.enabled then [⟨c.ui.hostName.val, network.lanAddress.str, true⟩] else [] := by
  rw [setBoxName] at h
  cases hn : c.network with
  | none => simp [hn] at h
  | some network =>
    simp only [hn, Except.ok.injEq] at h
    exact ⟨network, rfl, by rw [← h]⟩

theorem adguardText_rewrites {existing : Option AdguardFile} {file : AdguardFile} {c : Fields}
    {hashed : String} {previous corePassword : Option String}
    (h : adguardText coreUserHash existing c hashed previous corePassword = .ok file) :
    ∃ network, c.network = some network ∧
      file.rewrites = (existing.getD {}).rewrites.filter
          (·.domain ∉ c.ui.hostName.val :: previous.toList) ++
        if c.ui.enabled then [⟨c.ui.hostName.val, network.lanAddress.str, true⟩] else [] := by
  rw [adguardText] at h
  split at h
  · cases h
  · cases hm : setManaged coreUserHash (existing.getD {}) c hashed corePassword with
    | error e =>
      rw [hm] at h
      cases h
    | ok managed =>
      rw [hm] at h
      rw [← setManaged_rewrites hm]
      exact setBoxName_rewrites h

theorem ensureAdguard_some {existing : Option AdguardFile} {file : AdguardFile} {c : Fields}
    {hashed : String} {previous corePassword name : Option String}
    (h : ensureAdguard coreUserHash existing c hashed previous corePassword =
      .ok (some (file, name))) :
    adguardText coreUserHash existing c hashed previous corePassword = .ok file ∧
      name = if c.ui.enabled then some (c.ui.hostName.val ++ "\n") else none := by
  rw [ensureAdguard] at h
  split at h
  · cases h
  · cases ht : adguardText coreUserHash existing c hashed previous corePassword with
    | error e =>
      rw [ht] at h
      cases h
    | ok text =>
      rw [ht] at h
      cases h
      exact ⟨rfl, rfl⟩

theorem target_some {file : AdguardFile} {name : Option String}
    (h : s.target coreUserHash r = some (file, name)) :
    file.rewrites = s.rewrites.filter (·.domain ∉ s.ours r) ++ published r ∧
      (name = if r.config.ui.enabled then some (r.hostName ++ "\n") else none) ∧
      (r.config.ui.enabled = true → published r ≠ []) := by
  have he : ensureAdguard coreUserHash s.file r.config.toFields r.hashed s.previous r.corePassword =
      .ok (some (file, name)) := by
    rw [target] at h
    split at h
    next t ht => rw [ht, h]
    · cases h
  obtain ⟨ht, rfl⟩ := ensureAdguard_some he
  obtain ⟨network, hn, hr⟩ := adguardText_rewrites ht
  have hp : published r =
      if r.config.ui.enabled then [⟨r.hostName, network.lanAddress.str, true⟩] else [] := by
    simp [published, hn]
  have hf : (s.file.getD {}).rewrites = s.rewrites := by
    rw [rewrites]
    cases s.file <;> rfl
  refine ⟨?_, rfl, fun he => by simp [hp, he]⟩
  rw [hr, hp, hf]
  rfl

theorem published_domain : ∀ entry ∈ published r, entry.domain = r.hostName := by
  intro entry he
  rw [published] at he
  split at he
  · split at he
    · rw [List.mem_singleton.mp he]
    · cases he
  · cases he

theorem strip_line {s : String} (hne : s ≠ "") (h : ∀ c ∈ s.toList, isSpace c = false) :
    strip (s ++ "\n") = s := by
  have hl : s.toList ≠ [] := by simpa using hne
  have hstop : stripList isSpace s.toList = s.toList :=
    stripList_eq_self (fun hn => h _ (List.head_mem hn)) (fun hn => h _ (List.getLast_mem hn))
  have hend : isSpace '\n' = true := by decide
  rw [← String.toList_inj, strip, toList_stripBy, String.toList_append]
  obtain ⟨c, l, hs⟩ := List.exists_cons_of_ne_nil hl
  rw [hs] at hstop h ⊢
  have hc : isSpace c = false := h c List.mem_cons_self
  rw [stripList, List.dropWhile_cons_of_neg (by simp [hc])] at hstop
  rw [stripList, List.cons_append, List.dropWhile_cons_of_neg (by simp [hc]),
    ← List.cons_append]
  exact (List.rdropWhile_concat_pos _ _ _ hend).trans hstop

theorem previous_recorded (file : Option AdguardFile) (names unrecorded : List String) :
    previous ⟨file, some (r.hostName ++ "\n"), names, unrecorded⟩ = some r.hostName := by
  have hne : r.hostName ≠ "" := by
    intro h
    have hd := r.config.ui.hostName.property
    rw [show r.config.ui.hostName.val = "" from h] at hd
    exact absurd hd (by decide)
  rw [previous, Option.map_some, strip_line hne (domain_spaceless r.config.ui.hostName)]
  simp [hne]

theorem mem_ours {name : String} :
    name ∈ s.ours r ↔ name = r.hostName ∨ s.previous = some name := by
  simp [ours, eq_comm]

theorem mem_dropped {name : String} :
    name ∈ s.dropped r ↔ name ∈ s.unrecorded ∧ name ∉ s.ours r := by
  simp [dropped]

structure Rewritten (s t : NameBox) (r : AdguardRun) : Prop where
  rewrites : t.rewrites = s.rewrites.filter (·.domain ∉ s.ours r) ++ published r
  names : t.names = r.hostName :: s.names
  unrecorded : ∀ name, name ∈ t.unrecorded ↔ name ∈ s.dropped r ∨
    (name = r.hostName ∧ r.config.ui.enabled = true ∧ t.previous ≠ some name)
  previous : t.previous = s.previous ∨
    t.previous = if r.config.ui.enabled then some r.hostName else none
  enabled : r.config.ui.enabled = true → published r ≠ []

theorem step_rewritten {target : AdguardFile × Option String}
    (ht : s.target coreUserHash r = some target) (ho : r.outcome ≠ .unwritten) :
    Rewritten s (s.step coreUserHash r) r := by
  obtain ⟨hr, hn, he⟩ := target_some ht
  cases hc : r.outcome with
  | unwritten => exact absurd hc ho
  | completed =>
    have hs : s.step coreUserHash r =
        ⟨some target.1, target.2, r.hostName :: s.names, s.dropped r⟩ := by
      simp [step, ht, hc]
    have hp : (s.step coreUserHash r).previous =
        if r.config.ui.enabled then some r.hostName else none := by
      rw [hs, hn]
      cases r.config.ui.enabled with
      | true => exact previous_recorded _ _ _
      | false => rfl
    refine ⟨by simp [hs, NameBox.rewrites, hr], by rw [hs], fun name => ?_, .inr hp, he⟩
    rw [hp, hs]
    constructor
    · exact .inl
    · rintro (h | ⟨rfl, hu, h⟩)
      · exact h
      · simp [hu] at h
  | cut =>
    have hs : s.step coreUserHash r = { s with
        file := some target.1
        names := r.hostName :: s.names
        unrecorded := s.dropped r ++
          if r.config.ui.enabled ∧ s.previous ≠ some r.hostName then [r.hostName] else [] } := by
      simp [step, ht, hc]
    have hp : (s.step coreUserHash r).previous = s.previous := by rw [hs]; rfl
    refine ⟨by simp [hs, NameBox.rewrites, hr], by rw [hs], fun name => ?_, .inl hp, he⟩
    rw [hp, hs]
    simp only [List.mem_append]
    refine or_congr_right ?_
    split
    next h =>
      rw [List.mem_singleton]
      exact ⟨fun hn => ⟨hn, h.1, hn ▸ h.2⟩, And.left⟩
    next h =>
      simp only [List.not_mem_nil, false_iff]
      rintro ⟨rfl, h'⟩
      exact h h'

theorem step_other (h : ∀ target, s.target coreUserHash r = some target → r.outcome = .unwritten) :
    s.step coreUserHash r = { s with names := r.hostName :: s.names } := by
  rw [step]
  cases ht : s.target coreUserHash r with
  | none => rfl
  | some target => rw [h target ht]

theorem filter_new_name (ht : Tracks owner s) (ho : ∀ entry ∈ owner, entry.domain ≠ r.hostName) :
    s.rewrites.filter (·.domain ∉ r.hostName :: s.names) = owner := by
  have hf : s.rewrites.filter (·.domain ∉ r.hostName :: s.names) =
      (s.rewrites.filter (·.domain ∉ s.names)).filter (·.domain ≠ r.hostName) := by
    rw [List.filter_filter]
    exact List.filter_congr fun entry _ => by simp [not_or]
  rw [hf, ht.owned]
  exact List.filter_eq_self.mpr fun entry he => by simpa using ho entry he

theorem known_new_name (ht : Tracks owner s) (ho : ∀ entry ∈ owner, entry.domain ≠ r.hostName) :
    ∀ entry ∈ s.rewrites, entry.domain ∈ r.hostName :: s.names →
      entry.domain ∈ s.unrecorded ∨ s.previous = some entry.domain := by
  intro entry he hn
  by_cases hm : entry.domain ∈ s.names
  · exact ht.known entry he hm
  · have hmem : entry ∈ owner := by
      rw [← ht.owned, List.mem_filter]
      exact ⟨he, by simpa using hm⟩
    rcases List.mem_cons.mp hn with h | h
    · exact absurd h (ho entry hmem)
    · exact absurd h hm

theorem Rewritten.owned {t : NameBox} (h : Rewritten s t r) (ht : Tracks owner s)
    (ho : ∀ entry ∈ owner, entry.domain ≠ r.hostName) :
    t.rewrites.filter (·.domain ∉ t.names) = owner := by
  have hours : ∀ name, name ∈ s.ours r → name ∈ r.hostName :: s.names := by
    intro name hn
    rcases mem_ours.mp hn with rfl | hp
    · exact List.mem_cons_self
    · exact List.mem_cons_of_mem _ (ht.remembered name hp)
  have hp : (published r).filter (·.domain ∉ r.hostName :: s.names) = [] := by
    rw [List.filter_eq_nil_iff]
    intro entry he
    simp [published_domain entry he]
  rw [h.rewrites, h.names, List.filter_append, hp, List.append_nil, List.filter_filter,
    ← filter_new_name ht ho]
  refine List.filter_congr fun entry _ => ?_
  rw [Bool.and_eq_left_iff_imp]
  intro hn
  simp only [decide_eq_true_eq] at hn ⊢
  exact fun hm => hn (hours _ hm)

theorem Rewritten.left {t : NameBox} (h : Rewritten s t r) {entry : Rewrite} :
    entry ∈ t.rewrites ↔
      (entry ∈ s.rewrites ∧ entry.domain ∉ s.ours r) ∨ entry ∈ published r := by
  simp [h.rewrites]

theorem Rewritten.tracks {t : NameBox} (h : Rewritten s t r) (ht : Tracks owner s)
    (ho : ∀ entry ∈ owner, entry.domain ≠ r.hostName) : Tracks owner t := by
  refine ⟨h.owned ht ho, fun entry he hn => ?_, fun name hn => ?_, fun name hn => ?_⟩
  · rw [h.unrecorded]
    rcases h.left.mp he with ⟨hs, hd⟩ | hp
    · rw [h.names] at hn
      rcases known_new_name ht ho entry hs hn with hu | hp
      · exact .inl (.inl (mem_dropped.mpr ⟨hu, hd⟩))
      · exact absurd (mem_ours.mpr (.inr hp)) hd
    · have hu : r.config.ui.enabled = true := by
        rw [published] at hp
        split at hp
        · split at hp
          · assumption
          · cases hp
        · cases hp
      by_cases hprev : t.previous = some entry.domain
      · exact .inr hprev
      · exact .inl (.inr ⟨published_domain entry hp, hu, hprev⟩)
  · rw [h.names]
    rcases (h.unrecorded name).mp hn with hd | ⟨rfl, hu, -⟩
    · obtain ⟨hu, hours⟩ := mem_dropped.mp hd
      obtain ⟨hm, entry, he, rfl⟩ := ht.present name hu
      exact ⟨List.mem_cons_of_mem _ hm, entry, h.left.mpr (.inl ⟨he, hours⟩), rfl⟩
    · obtain ⟨entry, he⟩ := List.exists_mem_of_ne_nil _ (h.enabled hu)
      exact ⟨List.mem_cons_self, entry, h.left.mpr (.inr he), published_domain entry he⟩
  · rw [h.names]
    rcases h.previous with hp | hp
    · exact List.mem_cons_of_mem _ (ht.remembered name (hp ▸ hn))
    · rw [hp] at hn
      split at hn
      · cases hn
        exact List.mem_cons_self
      · cases hn

theorem tracks_step (coreUserHash : Option String → String → String) (ht : Tracks owner s)
    (ho : ∀ entry ∈ owner, entry.domain ≠ r.hostName) : Tracks owner (s.step coreUserHash r) := by
  by_cases h : ∀ target, s.target coreUserHash r = some target → r.outcome = .unwritten
  · rw [step_other h]
    exact ⟨filter_new_name ht ho, known_new_name ht ho,
      fun name hn => ⟨List.mem_cons_of_mem _ (ht.present name hn).1, (ht.present name hn).2⟩,
      fun name hn => List.mem_cons_of_mem _ (ht.remembered name hn)⟩
  · push Not at h
    obtain ⟨target, htarget, hne⟩ := h
    exact (step_rewritten htarget hne).tracks ht ho

theorem converged_iff (h : Completes coreUserHash s r) (ht : Tracks owner s)
    (ho : ∀ entry ∈ owner, entry.domain ≠ r.hostName) :
    Converged owner (s.step coreUserHash r) r ↔ Covered s r := by
  obtain ⟨hc, htarget⟩ := h
  obtain ⟨target, htarget⟩ := Option.isSome_iff_exists.mp htarget
  have hr := step_rewritten htarget (by simp [hc])
  constructor
  · intro h name hn
    by_contra hd
    obtain ⟨hm, entry, he, rfl⟩ := ht.present name hn
    refine h.earlier entry.domain (by simp [hr.names, hm]) (fun heq => hd ?_) entry
      (hr.left.mpr (.inl ⟨he, hd⟩)) rfl
    exact mem_ours.mpr (.inl heq)
  · intro hcov
    refine ⟨?_, fun name hn hne entry he heq => ?_, hr.owned ht ho⟩
    · have hs : (s.rewrites.filter (·.domain ∉ s.ours r)).filter (·.domain = r.hostName) = [] := by
        rw [List.filter_eq_nil_iff]
        intro entry he
        have hd := (List.mem_filter.mp he).2
        simp only [decide_eq_true_eq] at hd ⊢
        exact fun heq => hd (mem_ours.mpr (.inl heq))
      rw [hr.rewrites, List.filter_append, hs, List.nil_append, List.filter_eq_self]
      exact fun entry he => by simpa using published_domain entry he
    · rcases hr.left.mp he with ⟨hs, hd⟩ | hp
      · rw [hr.names, ← heq] at hn
        rcases known_new_name ht ho entry hs hn with hu | hp
        · exact hd (hcov _ hu)
        · exact hd (mem_ours.mpr (.inr hp))
      · exact hne (heq ▸ published_domain entry hp)

-- before the first run: the owner's rewrites, no remembered name
def start (file : Option AdguardFile) : NameBox := ⟨file, none, [], []⟩

theorem tracks_start (file : Option AdguardFile) :
    Tracks (start file).rewrites (start file) :=
  ⟨List.filter_eq_self.mpr fun _ _ => rfl, fun _ _ h => absurd h (by simp [start]),
    fun _ h => absurd h (by simp [start]), fun _ h => absurd h (by simp [start, previous])⟩

theorem box_name_converges_iff (coreUserHash : Option String → String → String)
    (file : Option AdguardFile) (runs : List AdguardRun)
    (howner : ∀ r ∈ runs, ∀ entry ∈ (start file).rewrites, entry.domain ≠ r.hostName) :
    EachStep (step coreUserHash) (fun s r => Completes coreUserHash s r →
        Converged (start file).rewrites (s.step coreUserHash r) r) (start file) runs ↔
      EachStep (step coreUserHash) (fun s r => Completes coreUserHash s r → Covered s r)
        (start file) runs := by
  refine EachStep.iff_of_mem runs
    (fun s r hr (ht : Tracks (start file).rewrites s) => ?_)
    (fun s r hr ht _ => tracks_step coreUserHash ht (howner r hr)) (tracks_start file)
  exact forall_congr' fun hc => converged_iff hc ht (howner r hr)

def oldBox : Config where
  role := .home
  network := some sampleNetwork
  routing := some { defaultUpstream := dpnKey }
  upstreams := { dpn := { enabled := true } }
  ui := { hostName := ⟨"old.box", by decide⟩ }
  valid := by decide

def newBox : Config where
  toFields := { oldBox with ui := { hostName := ⟨"new.box", by decide⟩ } }
  valid := by decide

def ownerFile : AdguardFile := { rewrites := [⟨"nas.example", "192.168.1.9", true⟩] }

-- cut after the file under the old name, started again under the new one
def renamedRuns : List AdguardRun := [⟨oldBox, "", none, .cut⟩, ⟨newBox, "", none, .completed⟩]

theorem renamed_leaves_name :
    ¬ EachStep (step fun _ password => password) (fun s r =>
        Completes (fun _ password => password) s r →
          Converged (start (some ownerFile)).rewrites (s.step (fun _ password => password) r) r)
      (start (some ownerFile)) renamedRuns := by
  intro h
  have hc : Completes (fun _ password => password)
      ((start (some ownerFile)).step (fun _ password => password) ⟨oldBox, "", none, .cut⟩)
      ⟨newBox, "", none, .completed⟩ := ⟨rfl, by decide +kernel⟩
  refine (h.2.1 hc).earlier "old.box" (by decide +kernel) (by decide +kernel)
    ⟨"old.box", "192.168.1.2", true⟩ (by decide +kernel) rfl

theorem same_name_converges :
    EachStep (step fun _ password => password) (fun s r =>
        Completes (fun _ password => password) s r →
          Converged (start (some ownerFile)).rewrites (s.step (fun _ password => password) r) r)
      (start (some ownerFile))
      [⟨oldBox, "", none, .cut⟩, ⟨oldBox, "", none, .completed⟩,
        ⟨newBox, "", none, .completed⟩] := by
  have howner : ∀ r ∈ [(⟨oldBox, "", none, .cut⟩ : AdguardRun), ⟨oldBox, "", none, .completed⟩,
      ⟨newBox, "", none, .completed⟩], ∀ entry ∈ (start (some ownerFile)).rewrites,
        entry.domain ≠ r.hostName := by
    decide +kernel
  refine (box_name_converges_iff _ (some ownerFile) _ howner).mpr
    ⟨fun hc => ?_, fun _ => ?_, fun _ => ?_, trivial⟩
  · exact fun name hn => absurd hn (by simp [start])
  · unfold Covered
    decide +kernel
  · unfold Covered
    decide +kernel

end NameBox

end VibeDPN
