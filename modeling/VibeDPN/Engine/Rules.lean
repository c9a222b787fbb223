import VibeDPN.Engine.Uplinks

namespace VibeDPN

inductive RouteTable where
  | local | main | default
  | id (table : Nat)
deriving DecidableEq, Repr

-- selectors: every other attribute of the rule (from, iif, fwmask and the like)
structure IpRule where
  priority : Nat
  fwmark : Option Nat := none
  table : Option RouteTable := none
  selectors : List (String × String) := []
deriving DecidableEq

structure RuleSelector where
  priority : Nat
  fwmark : Option Nat
  table : Option RouteTable
deriving DecidableEq

def ruleSelector (entry : IpRule) : RuleSelector := ⟨entry.priority, entry.fwmark, entry.table⟩

def RuleSelector.matches (s : RuleSelector) (r : IpRule) : Bool :=
  r.priority = s.priority && (s.fwmark.isNone || r.fwmark = s.fwmark) &&
    (s.table.isNone || r.table = s.table)

def uplinkRule (u : Uplink) : IpRule :=
  { priority := u.table, fwmark := some u.mark, table := some (.id u.table) }

def isExact (needed : Option Uplink) (entry : IpRule) : Bool :=
  match needed with
  | some u => entry.fwmark = some u.mark && entry.table = some (.id u.table)
  | none => false

def planSlot (needed : Option Uplink) : Bool → List IpRule → List RuleSelector × Bool
  | kept, [] => ([], kept)
  | kept, entry :: rest =>
    if isExact needed entry && !kept then planSlot needed true rest
    else (ruleSelector entry :: (planSlot needed kept rest).1, (planSlot needed kept rest).2)

def byTable (wanted : List Uplink) (table : Nat) : Option Uplink :=
  wanted.reverse.find? (fun u => u.table = table)

def slotTables : List Nat := (allSlots.map Uplink.table).dedup.insertionSort (· ≤ ·)

def atPriority (listing : List IpRule) (table : Nat) : List IpRule :=
  listing.filter (fun entry => entry.priority = table)

def planAt (listing : List IpRule) (wanted : List Uplink) (table : Nat) :
    List RuleSelector × List Uplink :=
  let plan := planSlot (byTable wanted table) false (atPriority listing table)
  (plan.1, if plan.2 then [] else (byTable wanted table).toList)

def planRules (listing : List IpRule) (wanted : List Uplink) : List RuleSelector × List Uplink :=
  (slotTables.flatMap (fun table => (planAt listing wanted table).1),
    slotTables.flatMap (fun table => (planAt listing wanted table).2))

theorem planSlot_kept {needed : Option Uplink} {kept : Bool} {l : List IpRule} :
    (planSlot needed kept l).2 = true ↔ kept = true ∨ ∃ entry ∈ l, isExact needed entry = true := by
  induction l generalizing kept with
  | nil => simp [planSlot]
  | cons entry l ih =>
    rw [planSlot]
    by_cases he : isExact needed entry = true
    · cases kept <;> simp [he, ih]
    · simp [he, ih]

theorem mem_planSlot {needed : Option Uplink} {kept : Bool} {l : List IpRule} {s : RuleSelector}
    (h : s ∈ (planSlot needed kept l).1) : ∃ entry ∈ l, s = ruleSelector entry := by
  induction l generalizing kept with
  | nil => simp [planSlot] at h
  | cons entry l ih =>
    rw [planSlot] at h
    split at h
    · obtain ⟨e, he, rfl⟩ := ih h
      exact ⟨e, by simp [he], rfl⟩
    · rcases List.mem_cons.mp h with rfl | h
      · exact ⟨entry, by simp, rfl⟩
      · obtain ⟨e, he, rfl⟩ := ih h
        exact ⟨e, by simp [he], rfl⟩

theorem planSlot_none (kept : Bool) (l : List IpRule) :
    (planSlot none kept l).1 = l.map ruleSelector := by
  induction l with
  | nil => rfl
  | cons entry l ih => simp [planSlot, isExact, ih]

theorem planSlot_exact {u : Uplink} {l : List IpRule} (hn : l.Nodup)
    (hl : ∀ entry ∈ l, entry = uplinkRule u) : (planSlot (some u) false l).1 = [] := by
  match l, hn, hl with
  | [], _, _ => rfl
  | [entry], _, hl =>
    rw [hl entry (by simp)]
    simp [planSlot, isExact, uplinkRule]
  | a :: b :: l, hn, hl =>
    exfalso
    have hab : a = b := (hl a (by simp)).trans (hl b (by simp)).symm
    simp [hab] at hn

theorem byTable_some {wanted : List Uplink} {table : Nat} {u : Uplink}
    (h : byTable wanted table = some u) : u ∈ wanted ∧ u.table = table :=
  ⟨by simpa using List.mem_of_find?_eq_some h, by simpa using List.find?_some h⟩

theorem byTable_none {wanted : List Uplink} {table : Nat} (h : byTable wanted table = none)
    {u : Uplink} (hu : u ∈ wanted) : u.table ≠ table := by
  have := List.find?_eq_none.mp h u (by simpa using hu)
  simpa using this

theorem byTable_of_nodup {wanted : List Uplink} (hn : (wanted.map Uplink.table).Nodup)
    {u : Uplink} (hu : u ∈ wanted) : byTable wanted u.table = some u := by
  cases h : byTable wanted u.table with
  | none => exact absurd rfl (byTable_none h hu)
  | some v =>
    obtain ⟨hv, ht⟩ := byTable_some h
    rw [List.inj_on_of_nodup_map hn hv hu ht]

theorem mem_slotTables {table : Nat} : table ∈ slotTables ↔ ∃ u ∈ allSlots, u.table = table := by
  rw [slotTables, (List.perm_insertionSort _ _).mem_iff, List.mem_dedup, List.mem_map]

theorem mem_planRules_add {listing : List IpRule} {wanted : List Uplink} {u : Uplink} :
    u ∈ (planRules listing wanted).2 ↔ u.table ∈ slotTables ∧ byTable wanted u.table = some u ∧
      ∀ entry ∈ listing, entry.priority = u.table → isExact (some u) entry = false := by
  simp only [planRules, planAt, List.mem_flatMap]
  constructor
  · rintro ⟨table, ht, hu⟩
    split at hu
    · simp at hu
    · rename_i hk
      rw [Option.mem_toList] at hu
      have htu := (byTable_some hu).2
      subst htu
      refine ⟨ht, hu, fun entry he hp => ?_⟩
      by_contra hx
      refine hk (planSlot_kept.mpr (.inr ⟨entry, by simp [atPriority, he, hp], ?_⟩))
      simpa [hu] using hx
  · rintro ⟨ht, hu, hl⟩
    refine ⟨u.table, ht, ?_⟩
    split
    · rename_i hk
      obtain ⟨entry, he, hx⟩ := (planSlot_kept.mp hk).resolve_left (by simp)
      simp only [atPriority, List.mem_filter, decide_eq_true_eq] at he
      rw [hu, hl entry he.1 he.2] at hx
      exact absurd hx (by simp)
    · simp [hu]

theorem mem_planRules_delete {listing : List IpRule} {wanted : List Uplink} {s : RuleSelector}
    (h : s ∈ (planRules listing wanted).1) :
    ∃ table ∈ slotTables, s ∈ (planAt listing wanted table).1 ∧
      ∃ entry ∈ listing, entry.priority = table ∧ s = ruleSelector entry := by
  simp only [planRules, List.mem_flatMap] at h
  obtain ⟨table, ht, hs⟩ := h
  refine ⟨table, ht, hs, ?_⟩
  obtain ⟨entry, he, rfl⟩ := mem_planSlot hs
  simp only [atPriority, List.mem_filter, decide_eq_true_eq] at he
  exact ⟨entry, he.1, he.2, rfl⟩

theorem planRules_deletes {listing : List IpRule} {wanted : List Uplink} {entry : IpRule}
    (ht : entry.priority ∈ slotTables) (hw : ∀ u ∈ wanted, u.table ≠ entry.priority)
    (he : entry ∈ listing) : ruleSelector entry ∈ (planRules listing wanted).1 := by
  have hb : byTable wanted entry.priority = none := by
    cases h : byTable wanted entry.priority with
    | none => rfl
    | some u => exact absurd (byTable_some h).2 (hw u (byTable_some h).1)
  simp only [planRules, planAt, List.mem_flatMap]
  refine ⟨entry.priority, ht, ?_⟩
  rw [hb, planSlot_none]
  exact List.mem_map.mpr ⟨entry, by simp [atPriority, he], rfl⟩

end VibeDPN
