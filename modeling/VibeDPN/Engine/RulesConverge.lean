import VibeDPN.Lib.Lanes
import VibeDPN.Engine.Host

namespace VibeDPN

-- as the kernel holds the rules: by priority, at one priority the oldest first
def kernelOrder (listing : List IpRule) : List IpRule :=
  listing.insertionSort (fun a b => a.priority ≤ b.priority)

def executeAll (commands : List Command) (h : Host) : Option Host :=
  commands.foldlM (fun h c => execute c h) h

def ruleCommands (plan : List RuleSelector × List Uplink) : List Command :=
  plan.2.map .ruleAdd ++ plan.1.map .ruleDel

structure RulesAs (wanted : List Uplink) (h h' : Host) : Prop where
  slots : ∀ u ∈ wanted, atPriority h'.rules u.table = [uplinkRule u]
  others : ∀ slot ∈ allSlots, slot ∉ wanted → atPriority h'.rules slot.table = []
  rest : h'.rules.filter (fun r => r.priority ∉ slotTables) =
    h.rules.filter (fun r => r.priority ∉ slotTables)

def RulesConverge (listing : List IpRule) (wanted : List Uplink) (h : Host) : Prop :=
  ∃ h', executeAll (ruleCommands (planRules listing wanted)) h = some h' ∧ RulesAs wanted h h'

-- from the first rule that counts as the slot's on, none with fewer selectors matches it, and
-- the last that counts has no other
def SlotClean (entries : List IpRule) (u : Uplink) : Prop :=
  let later := entries.dropWhile (fun entry => !isExact (some u) entry)
  (∀ entry ∈ later, (ruleSelector entry).matches (uplinkRule u) = true →
    isExact (some u) entry = true) ∧
    ∀ last ∈ (later.filter (isExact (some u))).getLast?, last.selectors = []

theorem matches_priority (s : RuleSelector) (r : IpRule) (h : s.matches r = true) :
    r.priority = s.priority := by
  simp only [RuleSelector.matches, Bool.and_eq_true, decide_eq_true_eq] at h
  exact h.1.1

theorem matches_self (r : IpRule) : (ruleSelector r).matches r = true := by
  simp [ruleSelector, RuleSelector.matches]

theorem isExact_iff {u : Uplink} {entry : IpRule} :
    isExact (some u) entry = true ↔ entry.fwmark = some u.mark ∧ entry.table = some (.id u.table) := by
  simp [isExact]

theorem exact_uplinkRule {u : Uplink} {entry : IpRule} (hp : entry.priority = u.table)
    (h : isExact (some u) entry = true) : entry = uplinkRule u ↔ entry.selectors = [] := by
  obtain ⟨hm, ht⟩ := isExact_iff.mp h
  obtain ⟨priority, fwmark, table, selectors⟩ := entry
  subst hp hm ht
  simp [uplinkRule]

section

variable {needed : Option Uplink}

theorem planSlot_true (l : List IpRule) :
    planSlot needed true l = (l.map ruleSelector, true) := by
  induction l with
  | nil => rfl
  | cons entry l ih => simp [planSlot, ih]

theorem planSlot_inexact {l : List IpRule} (h : ∀ entry ∈ l, isExact needed entry = false) :
    planSlot needed false l = (l.map ruleSelector, false) := by
  induction l with
  | nil => rfl
  | cons entry l ih =>
    rw [planSlot, h entry (by simp), ih (fun e he => h e (by simp [he]))]
    rfl

theorem planSlot_split {a b : List IpRule} {kept : IpRule}
    (ha : ∀ entry ∈ a, isExact needed entry = false) (hk : isExact needed kept = true) :
    planSlot needed false (a ++ kept :: b) = (a.map ruleSelector ++ b.map ruleSelector, true) := by
  induction a with
  | nil => simp [planSlot, hk, planSlot_true]
  | cons entry a ih =>
    rw [List.cons_append, planSlot, ha entry (by simp), ih (fun e he => ha e (by simp [he]))]
    rfl

end

abbrev surviving (r : IpRule) (l : List IpRule) : IpRule :=
  survivor RuleSelector.matches ruleSelector r l

theorem surviving_fwmark {r : IpRule} (h : r.fwmark = none) (l : List IpRule) :
    (surviving r l).fwmark = none := by
  induction l generalizing r with
  | nil => exact h
  | cons entry l ih =>
    rw [surviving, survivor]
    split
    · rename_i hm
      simp only [RuleSelector.matches, Bool.and_eq_true, Bool.or_eq_true, decide_eq_true_eq,
        ruleSelector, h, Option.isNone_iff_eq_none] at hm
      exact ih (hm.1.2.elim id Eq.symm)
    · exact ih h

theorem surviving_table {r : IpRule} (h : r.table = none) (l : List IpRule) :
    (surviving r l).table = none := by
  induction l generalizing r with
  | nil => exact h
  | cons entry l ih =>
    rw [surviving, survivor]
    split
    · rename_i hm
      simp only [RuleSelector.matches, Bool.and_eq_true, Bool.or_eq_true, decide_eq_true_eq,
        ruleSelector, h, Option.isNone_iff_eq_none] at hm
      exact ih (hm.2.elim id Eq.symm)
    · exact ih h

section

variable {u : Uplink}

theorem matches_exact {r : IpRule} (hp : r.priority = u.table) (hr : isExact (some u) r = true)
    (s : RuleSelector) : s.matches r = s.matches (uplinkRule u) := by
  obtain ⟨hm, ht⟩ := isExact_iff.mp hr
  rw [RuleSelector.matches, RuleSelector.matches, hp, hm, ht]
  rfl

theorem exact_matches {entry : IpRule} (hp : entry.priority = u.table)
    (he : isExact (some u) entry = true) :
    (ruleSelector entry).matches (uplinkRule u) = true := by
  rw [← matches_exact hp he]
  exact matches_self entry

theorem surviving_inexact {entry : IpRule} (hm : (ruleSelector entry).matches (uplinkRule u) = true)
    (he : isExact (some u) entry = false) (l : List IpRule) : surviving entry l ≠ uplinkRule u := by
  simp only [RuleSelector.matches, ruleSelector, uplinkRule, Bool.and_eq_true, Bool.or_eq_true,
    Option.isNone_iff_eq_none] at hm
  intro h
  rcases hm.1.2 with hn | hmark
  · have hs := surviving_fwmark hn l
    rw [h] at hs
    cases hs
  · rcases hm.2 with hn | htable
    · have hs := surviving_table hn l
      rw [h] at hs
      cases hs
    · rw [isExact_iff.mpr ⟨(of_decide_eq_true hmark).symm, (of_decide_eq_true htable).symm⟩] at he
      cases he

theorem surviving_iff {r : IpRule} {l : List IpRule} (hr : isExact (some u) r = true)
    (hpr : r.priority = u.table) (hp : ∀ entry ∈ l, entry.priority = u.table) :
    surviving r l = uplinkRule u ↔
      (∀ entry ∈ l, (ruleSelector entry).matches (uplinkRule u) = true →
        isExact (some u) entry = true) ∧
      ∀ last ∈ ((r :: l).filter (isExact (some u))).getLast?, last.selectors = [] := by
  induction l generalizing r with
  | nil =>
    have hs : surviving r [] = r := rfl
    rw [hs, exact_uplinkRule hpr hr, List.filter_cons_of_pos hr]
    simp
  | cons entry l ih =>
    have hpe := hp entry (by simp)
    have hpl : ∀ e ∈ l, e.priority = u.table := fun e he => hp e (by simp [he])
    rw [surviving, survivor, matches_exact hpr hr]
    cases hm : (ruleSelector entry).matches (uplinkRule u) with
    | false =>
      have he : ¬ isExact (some u) entry = true := by
        intro he
        rw [exact_matches hpe he] at hm
        cases hm
      rw [if_neg (by simp), ih hr hpr hpl, List.forall_mem_cons, List.filter_cons_of_pos hr,
        List.filter_cons_of_pos hr, List.filter_cons_of_neg he]
      simp [hm]
    | true =>
      rw [if_pos rfl, List.forall_mem_cons]
      cases he : isExact (some u) entry with
      | true =>
        rw [ih he hpe hpl, List.filter_cons_of_pos hr, List.filter_cons_of_pos he,
          List.getLast?_cons_cons]
        simp
      | false =>
        have hs := surviving_inexact hm he l
        simp [hm, hs]

end

def slotStart (needed : Option Uplink) (entries : List IpRule) : List IpRule :=
  entries ++ (if (planSlot needed false entries).2 then [] else needed.toList).map uplinkRule

def slotRule (u : Uplink) (entries : List IpRule) : IpRule :=
  match entries.dropWhile (fun entry => !isExact (some u) entry) with
  | [] => uplinkRule u
  | kept :: later => surviving kept later

theorem slotRule_iff {u : Uplink} {entries : List IpRule}
    (hp : ∀ entry ∈ entries, entry.priority = u.table) :
    slotRule u entries = uplinkRule u ↔ SlotClean entries u := by
  have hsub := List.dropWhile_sublist (l := entries) (fun entry => !isExact (some u) entry)
  rw [slotRule, SlotClean]
  cases hd : entries.dropWhile (fun entry => !isExact (some u) entry) with
  | nil => simp
  | cons kept later =>
    rw [hd] at hsub
    have hk : isExact (some u) kept = true := by
      have hh := List.head?_dropWhile_not (fun entry => !isExact (some u) entry) entries
      simpa [hd] using hh
    have hpk := hp kept (hsub.subset (by simp))
    have hpl : ∀ entry ∈ later, entry.priority = u.table :=
      fun entry he => hp entry (hsub.subset (by simp [he]))
    simp only
    rw [surviving_iff hk hpk hpl, List.forall_mem_cons]
    simp [hk]

theorem slot_run (needed : Option Uplink) (entries : List IpRule) :
    AllHit RuleSelector.matches (slotStart needed entries) (planSlot needed false entries).1 ∧
      removals RuleSelector.matches (planSlot needed false entries).1 (slotStart needed entries) =
        needed.toList.map (fun u => slotRule u entries) := by
  have hsplit := List.takeWhile_append_dropWhile (p := fun entry => !isExact needed entry)
    (l := entries)
  have hbefore : ∀ entry ∈ entries.takeWhile (fun entry => !isExact needed entry),
      isExact needed entry = false := fun entry he => by
    simpa using List.mem_takeWhile_imp he
  cases hd : entries.dropWhile (fun entry => !isExact needed entry) with
  | nil =>
    rw [hd, List.append_nil] at hsplit
    rw [hsplit] at hbefore
    rw [slotStart, planSlot_inexact hbefore]
    refine ⟨allHit_all matches_self entries _, ?_⟩
    rw [removals_all matches_self]
    cases needed with
    | none => rfl
    | some u => simp [slotRule, hd]
  | cons kept later =>
    have hk : isExact needed kept = true := by
      have hh := List.head?_dropWhile_not (fun entry => !isExact needed entry) entries
      simpa [hd] using hh
    rw [hd] at hsplit
    generalize entries.takeWhile (fun entry => !isExact needed entry) = before at hsplit hbefore
    subst hsplit
    rw [slotStart, planSlot_split hbefore hk, if_pos rfl, List.map_nil, List.append_nil,
      allHit_append, removals_append, removals_all matches_self, removals_survivor matches_self]
    refine ⟨⟨allHit_all matches_self _ _, allHit_survivor matches_self kept later⟩, ?_⟩
    cases needed with
    | none => cases hk
    | some u => rw [Option.toList_some, List.map_singleton, slotRule, hd]

theorem prioritised_kernelOrder (listing : List IpRule) : Prioritised (kernelOrder listing) := by
  have : Std.Total (fun a b : IpRule => a.priority ≤ b.priority) := ⟨fun a b => Nat.le_total _ _⟩
  have : IsTrans IpRule (fun a b : IpRule => a.priority ≤ b.priority) :=
    ⟨fun _ _ _ => Nat.le_trans⟩
  exact List.pairwise_insertionSort _ listing

theorem atPriority_ordered (r : IpRule) (q : Nat) (l : List IpRule) :
    atPriority (l.orderedInsert (fun a b => a.priority ≤ b.priority) r) q = atPriority (r :: l) q := by
  induction l with
  | nil => rfl
  | cons b l ih =>
    rw [List.orderedInsert]
    split
    · rfl
    · rename_i hle
      simp only [atPriority, List.filter_cons] at ih ⊢
      rw [ih]
      by_cases hr : r.priority = q
      · have hb : b.priority ≠ q := by omega
        simp [hr, hb]
      · simp [hr]

theorem atPriority_kernelOrder (listing : List IpRule) (q : Nat) :
    atPriority (kernelOrder listing) q = atPriority listing q := by
  induction listing with
  | nil => rfl
  | cons r l ih =>
    have hstep : kernelOrder (r :: l) =
        (kernelOrder l).orderedInsert (fun a b => a.priority ≤ b.priority) r := rfl
    rw [hstep, atPriority_ordered]
    simp only [atPriority, List.filter_cons] at ih ⊢
    rw [ih]

theorem filter_insertRule {f : IpRule → Bool} {r : IpRule} (hr : f r = false) (l : List IpRule) :
    (insertRule r l).filter f = l.filter f := by
  induction l with
  | nil => simp [insertRule, hr]
  | cons b l ih =>
    rw [insertRule]
    split
    · rw [List.filter_cons_of_neg (by simp [hr])]
    · rw [List.filter_cons, List.filter_cons, ih]

theorem atPriority_insertRule {l : List IpRule} (h : Prioritised l) (r : IpRule) :
    atPriority (insertRule r l) r.priority = atPriority l r.priority ++ [r] := by
  induction l with
  | nil => simp [insertRule, atPriority]
  | cons b l ih =>
    obtain ⟨hb, hl⟩ := List.pairwise_cons.mp h
    rw [insertRule]
    split
    · rename_i hlt
      have hnone : atPriority (b :: l) r.priority = [] := by
        rw [atPriority, List.filter_eq_nil_iff]
        intro x hx
        rcases List.mem_cons.mp hx with rfl | hx
        · simp only [decide_eq_true_eq]
          omega
        · have := hb x hx
          simp only [decide_eq_true_eq]
          omega
      rw [hnone, atPriority, List.filter_cons_of_pos (by simp), ← atPriority, hnone]
      rfl
    · have hi := ih hl
      rw [atPriority] at hi
      rw [atPriority, List.filter_cons, hi, atPriority, atPriority, List.filter_cons]
      split
      · rfl
      · rfl

def addAll (adds : List Uplink) (l : List IpRule) : List IpRule :=
  adds.foldl (fun l u => insertRule (uplinkRule u) l) l

theorem atPriority_addAll {l : List IpRule} (h : Prioritised l) (adds : List Uplink) (q : Nat) :
    atPriority (addAll adds l) q = atPriority l q ++ (lane Uplink.table q adds).map uplinkRule := by
  induction adds generalizing l with
  | nil => simp [addAll, lane]
  | cons u adds ih =>
    rw [addAll, List.foldl_cons, ← addAll, ih (prioritised_insertRule h)]
    by_cases hq : u.table = q
    · subst hq
      have hu := atPriority_insertRule h (uplinkRule u)
      rw [lane_cons_pos rfl, List.map_cons]
      rw [show (uplinkRule u).priority = u.table from rfl] at hu
      rw [hu, List.append_assoc]
      rfl
    · rw [lane_cons_neg hq, atPriority, filter_insertRule (decide_eq_false hq), ← atPriority]

theorem filter_addAll {f : IpRule → Bool} {adds : List Uplink}
    (hf : ∀ u ∈ adds, f (uplinkRule u) = false) (l : List IpRule) :
    (addAll adds l).filter f = l.filter f := by
  induction adds generalizing l with
  | nil => rfl
  | cons u adds ih =>
    rw [addAll, List.foldl_cons, ← addAll, ih (fun v hv => hf v (by simp [hv])),
      filter_insertRule (hf u (by simp))]

theorem filter_removals {f : IpRule → Bool} {dels : List RuleSelector}
    (hf : ∀ s ∈ dels, ∀ r, s.matches r = true → f r = false) (l : List IpRule) :
    (removals RuleSelector.matches dels l).filter f = l.filter f := by
  induction dels generalizing l with
  | nil => rfl
  | cons s dels ih =>
    rw [removals_cons, ih (fun t ht => hf t (by simp [ht])),
      filter_eraseP_of_disjoint (hf s (by simp))]

theorem execute_adds {adds : List Uplink} (hn : (adds.map Uplink.table).Nodup) {h : Host}
    (hf : ∀ u ∈ adds, uplinkRule u ∉ h.rules) :
    executeAll (adds.map .ruleAdd) h = some { h with rules := addAll adds h.rules } := by
  induction adds generalizing h with
  | nil => rfl
  | cons u adds ih =>
    rw [List.map_cons, List.nodup_cons] at hn
    rw [List.map_cons, executeAll, List.foldlM_cons, execute, if_neg (hf u (by simp))]
    refine (ih hn.2 (fun v hv hm => ?_)).trans rfl
    rcases mem_insertRule.mp hm with he | hm
    · have ht : v.table = u.table := congrArg IpRule.priority he
      exact hn.1 (ht ▸ List.mem_map_of_mem hv)
    · exact hf v (by simp [hv]) hm

theorem execute_dels {dels : List RuleSelector} {h : Host}
    (hd : AllHit RuleSelector.matches h.rules dels) : executeAll (dels.map .ruleDel) h =
      some { h with rules := removals RuleSelector.matches dels h.rules } := by
  induction dels generalizing h with
  | nil => rfl
  | cons s dels ih =>
    rw [allHit_cons] at hd
    rw [List.map_cons, executeAll, List.foldlM_cons, execute, if_pos hd.1]
    exact (ih hd.2).trans rfl

theorem slotTables_nodup : slotTables.Nodup :=
  (List.perm_insertionSort _ _).nodup_iff.mpr (List.nodup_dedup _)

def settledRules (listing : List IpRule) (wanted : List Uplink) : List IpRule :=
  removals RuleSelector.matches (planRules listing wanted).1
    (addAll (planRules listing wanted).2 (kernelOrder listing))

section

variable (listing : List IpRule) (wanted : List Uplink)

theorem planned_adds (q : Nat) : lane Uplink.table q (planRules listing wanted).2 =
    if q ∈ slotTables then (planAt listing wanted q).2 else [] := by
  have hf : ∀ table, ∀ u ∈ (planAt listing wanted table).2, u.table = table := by
    intro table u hu
    rw [planAt] at hu
    simp only at hu
    split at hu
    · cases hu
    · exact (byTable_some (Option.mem_toList.mp hu)).2
  exact lane_flatMap hf slotTables_nodup q

theorem planned_dels (q : Nat) : lane RuleSelector.priority q (planRules listing wanted).1 =
    if q ∈ slotTables then (planAt listing wanted q).1 else [] := by
  have hf : ∀ table, ∀ s ∈ (planAt listing wanted table).1, s.priority = table := by
    intro table s hs
    obtain ⟨entry, he, rfl⟩ := mem_planSlot hs
    exact of_decide_eq_true (List.mem_filter.mp he).2
  exact lane_flatMap hf slotTables_nodup q

theorem adds_nodup : ((planRules listing wanted).2.map Uplink.table).Nodup := by
  refine nodup_of_lanes (fun q => ?_)
  rw [planned_adds]
  split
  · rw [planAt]
    split
    · simp
    · cases byTable wanted q <;> simp
  · simp

theorem added_at (q : Nat) :
    lane IpRule.priority q (addAll (planRules listing wanted).2 (kernelOrder listing)) =
      if q ∈ slotTables then slotStart (byTable wanted q) (atPriority listing q)
      else atPriority listing q := by
  have h := atPriority_addAll (prioritised_kernelOrder listing) (planRules listing wanted).2 q
  rw [atPriority_kernelOrder, planned_adds] at h
  refine h.trans ?_
  split
  · rfl
  · rw [List.map_nil, List.append_nil]

theorem dels_hit : AllHit RuleSelector.matches
    (addAll (planRules listing wanted).2 (kernelOrder listing)) (planRules listing wanted).1 := by
  refine allHit_of_lanes matches_priority (fun q => ?_)
  rw [added_at, planned_dels]
  split
  · exact (slot_run (byTable wanted q) (atPriority listing q)).1
  · trivial

theorem settled_at {q : Nat} (hq : q ∈ slotTables) : atPriority (settledRules listing wanted) q =
    (byTable wanted q).toList.map (fun u => slotRule u (atPriority listing q)) := by
  have hl := lane_removals matches_priority q (planRules listing wanted).1
    (addAll (planRules listing wanted).2 (kernelOrder listing))
  rw [added_at, planned_dels, if_pos hq, if_pos hq] at hl
  exact hl.trans (slot_run (byTable wanted q) (atPriority listing q)).2

theorem execute_plan (h : Host) : executeAll (ruleCommands (planRules listing wanted))
    { h with rules := kernelOrder listing } =
      some { h with rules := settledRules listing wanted } := by
  have hfresh : ∀ u ∈ (planRules listing wanted).2, uplinkRule u ∉ kernelOrder listing := by
    intro u hu hm
    have hm' : uplinkRule u ∈ listing := (List.perm_insertionSort _ _).mem_iff.mp hm
    have hx := (mem_planRules_add.mp hu).2.2 _ hm' rfl
    simp [isExact, uplinkRule] at hx
  have hadds := execute_adds (adds_nodup listing wanted) (h := ⟨h.nft, kernelOrder listing,
    h.routes, h.dockerUser⟩) hfresh
  rw [executeAll] at hadds
  rw [executeAll, ruleCommands, List.foldlM_append, hadds]
  exact execute_dels (dels_hit listing wanted)

end

theorem byTable_slot {wanted : List Uplink} (hw : wanted ⊆ allSlots) {slot : Uplink}
    (hs : slot ∈ allSlots) : (byTable wanted slot.table).toList = if slot ∈ wanted then [slot] else [] := by
  cases hb : byTable wanted slot.table with
  | none =>
    rw [if_neg (fun hm => byTable_none hb hm rfl)]
    rfl
  | some u =>
    obtain ⟨hu, ht⟩ := byTable_some hb
    have he : u = slot := List.inj_on_of_nodup_map allSlots_tables (hw hu) hs ht
    rw [he, if_pos (he ▸ hu)]
    rfl

theorem rules_converge_iff (listing : List IpRule) {wanted : List Uplink} (hw : wanted ⊆ allSlots)
    (h : Host) : RulesConverge listing wanted { h with rules := kernelOrder listing } ↔
      ∀ u ∈ wanted, SlotClean (atPriority listing u.table) u := by
  have hat (slot : Uplink) (hs : slot ∈ allSlots) := by
    have hq := settled_at listing wanted (mem_slotTables.mpr ⟨slot, hs, rfl⟩)
    rwa [byTable_slot hw hs] at hq
  have hslot (u : Uplink) : slotRule u (atPriority listing u.table) = uplinkRule u ↔
      SlotClean (atPriority listing u.table) u :=
    slotRule_iff (fun entry he => of_decide_eq_true (List.mem_filter.mp he).2)
  constructor
  · rintro ⟨h', hrun, has⟩ u hu
    rw [execute_plan, Option.some.injEq] at hrun
    subst hrun
    have hone := has.slots u hu
    rw [hat u (hw hu), if_pos hu, List.map_singleton, List.singleton_inj] at hone
    exact (hslot u).mp hone
  · intro hclean
    refine ⟨_, execute_plan listing wanted h, fun u hu => ?_, fun slot hs hn => ?_, ?_⟩
    · rw [hat u (hw hu), if_pos hu, List.map_singleton, (hslot u).mpr (hclean u hu)]
    · rw [hat slot hs, if_neg hn, List.map_nil]
    · rw [settledRules, filter_removals, filter_addAll]
      · intro u hu
        exact decide_eq_false (not_not.mpr (mem_planRules_add.mp hu).1)
      · intro s hs r hm
        obtain ⟨table, ht, -, entry, -, hp, rfl⟩ := mem_planRules_delete hs
        have hr : r.priority = entry.priority := matches_priority _ r hm
        rw [decide_eq_false_iff_not, not_not, hr, hp]
        exact ht

-- a foreign rule at the priority of the first uplink, and a rule of an uplink that left
def staleListing : List IpRule :=
  [{ priority := 0, table := some .local }, uplinkRule (uplinks .vps),
    { priority := 7710, table := some .main }, uplinkRule (uplinks .tor),
    { priority := 32766, table := some .main }, { priority := 32767, table := some .default }]

theorem stale_listing_converges :
    RulesConverge staleListing [uplinks .vps, uplinks .dpn]
      { cleanHost none with rules := kernelOrder staleListing } := by
  have hw : [uplinks .vps, uplinks .dpn] ⊆ allSlots := by decide
  refine (rules_converge_iff staleListing hw (cleanHost none)).mpr ?_
  simp only [SlotClean]
  decide

-- the rule that is to go has no mark, so ip takes the marked one for it
def unmarkedListing : List IpRule :=
  [{ priority := 0, table := some .local }, uplinkRule (uplinks .vps),
    { priority := 7710, table := some (.id 7710) }, { priority := 32766, table := some .main }]

theorem unmarked_rule_survives :
    ¬ RulesConverge unmarkedListing [uplinks .vps] { cleanHost none with
      rules := unmarkedListing } ∧
      settledRules unmarkedListing [uplinks .vps] =
        [{ priority := 0, table := some .local }, { priority := 7710, table := some (.id 7710) },
          { priority := 32766, table := some .main }] := by
  refine ⟨?_, by decide⟩
  rintro ⟨h', hrun, has⟩
  have hsettled := execute_plan unmarkedListing [uplinks .vps] (cleanHost none)
  have ho : kernelOrder unmarkedListing = unmarkedListing := by decide
  rw [ho] at hsettled
  rw [hsettled, Option.some.injEq] at hrun
  have hone := has.slots (uplinks .vps) (by simp)
  rw [← hrun] at hone
  exact absurd hone (by decide)

end VibeDPN
