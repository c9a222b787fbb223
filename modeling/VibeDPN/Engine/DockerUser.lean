import VibeDPN.Engine.ApplyRouter
import VibeDPN.Engine.RulesConverge
import VibeDPN.Engine.Firewall

namespace VibeDPN

open Text

def dockerCommands (rules wanted : List (List String)) (comment : String) : List Command :=
  let plan := planDockerUser rules wanted comment
  plan.1.map .dockerDelete ++ plan.2.reverse.map .dockerInsert

def commentOf (rule : List String) : Option String := (rule.dropWhile (· ≠ "--comment")).tail.head?

def groupOf (comment : String) (rules : List (List String)) : List (List String) :=
  rules.filter (fun rule => commentOf rule = some comment)

def outside (comment : String) (rules : List (List String)) : List (List String) :=
  rules.filter (fun rule => commentOf rule ≠ some comment)

structure OneGroup (comment : String) (wanted : List (List String)) : Prop where
  prefixed : startsWith comment ourCommentPrefix = true
  distinct : wanted.Nodup
  ours : ∀ rule ∈ wanted, commentOf rule = some comment

structure GroupAs (comment : String) (wanted rules rules' : List (List String)) : Prop where
  group : groupOf comment rules' = wanted
  above : ∀ rule ∈ rules'.dropWhile commentedByUs, commentOf rule ≠ some comment
  rest : outside comment rules' = outside comment rules

def GroupConverges (comment : String) (wanted rules : List (List String)) (h : Host) : Prop :=
  ∃ rules', executeAll (dockerCommands rules wanted comment) h =
      some { h with dockerUser := some rules' } ∧
    GroupAs comment wanted rules rules' ∧ planDockerUser rules' wanted comment = ([], [])

def QuietAfter (first : String) (wanted : List (List String)) (second : String)
    (wanted' rules : List (List String)) (h : Host) : Prop :=
  ∃ rules' rules'', executeAll (dockerCommands rules wanted first) h =
      some { h with dockerUser := some rules' } ∧
    executeAll (dockerCommands rules' wanted' second) { h with dockerUser := some rules' } =
      some { h with dockerUser := some rules'' } ∧
    planDockerUser rules'' wanted first = ([], []) ∧
    planDockerUser rules'' wanted' second = ([], [])

-- the group stands above every foreign rule, complete and in another order
def Reordered (comment : String) (wanted rules : List (List String)) : Prop :=
  (∀ rule ∈ rules.dropWhile commentedByUs, commentOf rule ≠ some comment) ∧
    (groupOf comment rules).Perm wanted ∧ groupOf comment rules ≠ wanted

-- the text of the comment stands in a rule as nothing but its comment
def NoStray (comment : String) (rules : List (List String)) : Prop :=
  ∀ rule ∈ rules, comment ∈ rule → commentOf rule = some comment

def carrying (comment : String) (rules : List (List String)) : List (List String) :=
  rules.filter (fun rule => comment ∈ rule)

def sparing (comment : String) (rules : List (List String)) : List (List String) :=
  rules.filter (fun rule => comment ∉ rule)

-- what plan_docker_user asks before it leaves the group as it is
def InPlace (comment : String) (wanted rules : List (List String)) : Prop :=
  (carrying comment rules).length = wanted.length ∧
    (carrying comment (rules.takeWhile commentedByUs)).Perm wanted

instance (comment : String) (wanted rules : List (List String)) :
    Decidable (InPlace comment wanted rules) :=
  inferInstanceAs (Decidable (_ ∧ _))

def synced (comment : String) (wanted rules : List (List String)) : List (List String) :=
  if InPlace comment wanted rules then rules else wanted ++ sparing comment rules

section

variable {comment other : String} {wanted wanted' rules : List (List String)}

theorem carrying_append (comment : String) (a b : List (List String)) :
    carrying comment (a ++ b) = carrying comment a ++ carrying comment b :=
  List.filter_append ..

theorem sparing_append (comment : String) (a b : List (List String)) :
    sparing comment (a ++ b) = sparing comment a ++ sparing comment b :=
  List.filter_append ..

theorem carrying_eq_nil {rules : List (List String)} (h : ∀ rule ∈ rules, comment ∉ rule) :
    carrying comment rules = [] :=
  List.filter_eq_nil_iff.mpr (fun rule hr => by simpa using h rule hr)

theorem carrying_sparing (comment : String) (rules : List (List String)) :
    carrying comment (sparing comment rules) = [] :=
  carrying_eq_nil (fun rule hr => by simpa using (List.mem_filter.mp hr).2)

theorem carrying_self (h : ∀ rule ∈ wanted, comment ∈ rule) : carrying comment wanted = wanted :=
  List.filter_eq_self.mpr (fun rule hr => decide_eq_true (h rule hr))

theorem sparing_self (h : ∀ rule ∈ rules, comment ∉ rule) : sparing comment rules = rules :=
  List.filter_eq_self.mpr (fun rule hr => decide_eq_true (h rule hr))

theorem sparing_sparing (comment : String) (rules : List (List String)) :
    sparing comment (sparing comment rules) = sparing comment rules :=
  sparing_self (fun rule hr => by simpa using (List.mem_filter.mp hr).2)

theorem sparing_group (h : ∀ rule ∈ wanted, comment ∈ rule) : sparing comment wanted = [] :=
  List.filter_eq_nil_iff.mpr (fun rule hr => by simpa using h rule hr)

theorem planDockerUser_eq (comment : String) (wanted rules : List (List String)) :
    planDockerUser rules wanted comment =
      if InPlace comment wanted rules then ([], []) else (carrying comment rules, wanted) := rfl

theorem inPlace_iff : InPlace comment wanted rules ↔
    ∃ head rest, rules = head ++ rest ∧ (∀ rule ∈ head, commentedByUs rule = true) ∧
      (∀ rule ∈ rest, comment ∉ rule) ∧ (carrying comment head).Perm wanted := by
  constructor
  · rintro ⟨hlen, hperm⟩
    have hsplit := List.takeWhile_append_dropWhile (p := commentedByUs) (l := rules)
    refine ⟨_, _, hsplit.symm, fun rule hr => List.mem_takeWhile_imp hr, fun rule hr hc => ?_,
      hperm⟩
    have hg := carrying_append comment (rules.takeWhile commentedByUs)
      (rules.dropWhile commentedByUs)
    rw [hsplit] at hg
    have hzero : (carrying comment (rules.dropWhile commentedByUs)).length = 0 := by
      have hl := congrArg List.length hg
      rw [List.length_append, hlen, hperm.length_eq] at hl
      omega
    have hmem : rule ∈ carrying comment (rules.dropWhile commentedByUs) :=
      List.mem_filter.mpr ⟨hr, decide_eq_true hc⟩
    rw [List.length_eq_zero_iff.mp hzero] at hmem
    cases hmem
  · rintro ⟨head, rest, rfl, hhead, hrest, hperm⟩
    have hsub : ∀ rule ∈ rest.takeWhile commentedByUs, comment ∉ rule :=
      fun rule hr => hrest rule ((List.takeWhile_sublist _).subset hr)
    constructor
    · rw [carrying_append, carrying_eq_nil hrest, List.append_nil, hperm.length_eq]
    · rw [List.takeWhile_append_of_pos hhead, carrying_append, carrying_eq_nil hsub,
        List.append_nil]
      exact hperm

theorem inPlace_group (h : InPlace comment wanted rules) :
    (carrying comment rules).Perm wanted ∧ ∀ rule ∈ rules.dropWhile commentedByUs, comment ∉ rule := by
  obtain ⟨head, rest, rfl, hhead, hrest, hperm⟩ := inPlace_iff.mp h
  constructor
  · rw [carrying_append, carrying_eq_nil hrest, List.append_nil]
    exact hperm
  · rw [List.dropWhile_append_of_pos hhead]
    exact fun rule hr => hrest rule ((List.dropWhile_sublist _).subset hr)

theorem inPlace_inserted (ho : ∀ rule ∈ wanted, comment ∈ rule ∧ commentedByUs rule = true) :
    InPlace comment wanted (wanted ++ sparing comment rules) := by
  refine inPlace_iff.mpr ⟨wanted, _, rfl, fun rule hr => (ho rule hr).2, fun rule hr => ?_, ?_⟩
  · simpa using (List.mem_filter.mp hr).2
  · rw [carrying_self (fun rule hr => (ho rule hr).1)]

theorem inPlace_synced (ho : ∀ rule ∈ wanted, comment ∈ rule ∧ commentedByUs rule = true)
    (rules : List (List String)) : InPlace comment wanted (synced comment wanted rules) := by
  rw [synced]
  split
  · assumption
  · exact inPlace_inserted ho

theorem inPlace_kept (h : InPlace comment wanted rules) (ho : ∀ rule ∈ wanted, other ∉ rule)
    (ho' : ∀ rule ∈ wanted', commentedByUs rule = true ∧ comment ∉ rule) :
    InPlace comment wanted (synced other wanted' rules) := by
  rw [synced]
  split
  · exact h
  · obtain ⟨head, rest, rfl, hhead, hrest, hperm⟩ := inPlace_iff.mp h
    refine inPlace_iff.mpr ⟨wanted' ++ sparing other head, sparing other rest, ?_, ?_, ?_, ?_⟩
    · rw [sparing_append, List.append_assoc]
    · intro rule hr
      rcases List.mem_append.mp hr with hr | hr
      · exact (ho' rule hr).1
      · exact hhead rule (List.mem_filter.mp hr).1
    · exact fun rule hr => hrest rule (List.mem_filter.mp hr).1
    · have hsame : carrying comment (sparing other head) = carrying comment head := by
        rw [sparing, carrying, List.filter_comm]
        exact sparing_self (fun rule hr => ho rule (hperm.subset hr))
      rw [carrying_append, carrying_eq_nil (fun rule hr => (ho' rule hr).2), List.nil_append, hsame]
      exact hperm

theorem mem_of_commentOf {rule : List String} (h : commentOf rule = some comment) :
    comment ∈ rule := by
  have hm := List.mem_of_head? h
  exact (List.dropWhile_sublist _).subset (List.tail_subset _ hm)

theorem OneGroup.carries (hw : OneGroup comment wanted) :
    ∀ rule ∈ wanted, comment ∈ rule ∧ commentedByUs rule = true := by
  intro rule hr
  have hc := hw.ours rule hr
  refine ⟨mem_of_commentOf hc, ?_⟩
  rw [commentOf] at hc
  rw [commentedByUs, hc]
  exact hw.prefixed

theorem NoStray.iff (hn : NoStray comment rules) {rule : List String} (hr : rule ∈ rules) :
    commentOf rule = some comment ↔ comment ∈ rule :=
  ⟨mem_of_commentOf, hn rule hr⟩

theorem NoStray.groupOf_eq (hn : NoStray comment rules) :
    groupOf comment rules = carrying comment rules :=
  List.filter_congr (fun _ hr => decide_eq_decide.mpr (hn.iff hr))

theorem NoStray.outside_eq (hn : NoStray comment rules) :
    outside comment rules = sparing comment rules :=
  List.filter_congr (fun _ hr => decide_eq_decide.mpr (not_congr (hn.iff hr)))

theorem mem_synced {rule : List String} (h : rule ∈ synced comment wanted rules) :
    rule ∈ wanted ∨ rule ∈ rules := by
  rw [synced] at h
  split at h
  · exact .inr h
  · exact (List.mem_append.mp h).imp id (fun h => (List.mem_filter.mp h).1)

theorem NoStray.synced (hw : OneGroup comment wanted) (hn : NoStray comment rules) :
    NoStray comment (synced comment wanted rules) := by
  intro rule hr hc
  rcases mem_synced hr with hr | hr
  · exact hw.ours rule hr
  · exact hn rule hr hc

theorem groupAs_synced (hw : OneGroup comment wanted) (hn : NoStray comment rules) :
    GroupAs comment wanted rules (synced comment wanted rules) ↔
      ¬ Reordered comment wanted rules := by
  have hs := hn.synced hw
  have hbelow {l : List (List String)} (hl : NoStray comment l) :
      (∀ rule ∈ l.dropWhile commentedByUs, commentOf rule ≠ some comment) ↔
        ∀ rule ∈ l.dropWhile commentedByUs, comment ∉ rule :=
    forall₂_congr (fun _ hr => not_congr (hl.iff ((List.dropWhile_sublist _).subset hr)))
  rw [Reordered, hbelow hn, hn.groupOf_eq]
  have hiff : GroupAs comment wanted rules (synced comment wanted rules) ↔
      carrying comment (synced comment wanted rules) = wanted ∧
        (∀ rule ∈ (synced comment wanted rules).dropWhile commentedByUs, comment ∉ rule) ∧
        sparing comment (synced comment wanted rules) = sparing comment rules := by
    rw [← hs.groupOf_eq, ← hbelow hs, ← hs.outside_eq, ← hn.outside_eq]
    exact ⟨fun h => ⟨h.group, h.above, h.rest⟩, fun h => ⟨h.1, h.2.1, h.2.2⟩⟩
  rw [hiff, synced]
  split
  · rename_i hin
    obtain ⟨hperm, habove⟩ := inPlace_group hin
    constructor
    · exact fun has hre => hre.2.2 has.1
    · intro hre
      exact ⟨by_contra (fun hne => hre ⟨habove, hperm, hne⟩), habove, rfl⟩
  · rename_i hin
    have hg : carrying comment (wanted ++ sparing comment rules) = wanted := by
      rw [carrying_append, carrying_sparing, List.append_nil,
        carrying_self (fun rule hr => (hw.carries rule hr).1)]
    refine iff_of_true ⟨hg, (inPlace_group (inPlace_inserted hw.carries)).2, ?_⟩ ?_
    · rw [sparing_append, sparing_sparing, sparing_group (fun rule hr => (hw.carries rule hr).1),
        List.nil_append]
    · rintro ⟨habove, hperm, -⟩
      refine hin (inPlace_iff.mpr ⟨_, _, List.takeWhile_append_dropWhile.symm,
        fun rule hr => List.mem_takeWhile_imp hr, habove, ?_⟩)
      have hsplit := carrying_append comment (rules.takeWhile commentedByUs)
        (rules.dropWhile commentedByUs)
      rw [List.takeWhile_append_dropWhile, carrying_eq_nil habove, List.append_nil] at hsplit
      rw [← hsplit]
      exact hperm

-- a rule that only names the text of the comment is taken for one of the group and deleted
theorem noStray_of_groupAs (hw : OneGroup comment wanted)
    (has : GroupAs comment wanted rules (synced comment wanted rules)) :
    NoStray comment rules := by
  intro rule hr hc
  by_contra hne
  have hmem : rule ∈ outside comment (synced comment wanted rules) := by
    rw [has.rest]
    exact List.mem_filter.mpr ⟨hr, decide_eq_true hne⟩
  have hs := (List.mem_filter.mp hmem).1
  rw [synced] at hs
  split at hs
  · rename_i hin
    have hw' := (inPlace_group hin).1.subset (List.mem_filter.mpr ⟨hr, decide_eq_true hc⟩)
    exact hne (hw.ours rule hw')
  · rcases List.mem_append.mp hs with hs | hs
    · exact hne (hw.ours rule hs)
    · simpa [hc] using (List.mem_filter.mp hs).2

theorem execute_deletes (comment : String) (before rules : List (List String)) (h : Host)
    (hb : ∀ rule ∈ before, comment ∉ rule) :
    executeAll ((carrying comment rules).map .dockerDelete)
      { h with dockerUser := some (before ++ rules) } =
        some { h with dockerUser := some (before ++ sparing comment rules) } := by
  induction rules generalizing before with
  | nil => rfl
  | cons rule rules ih =>
    by_cases hr : comment ∈ rule
    · have hg : carrying comment (rule :: rules) = rule :: carrying comment rules :=
        List.filter_cons_of_pos (decide_eq_true hr)
      have hn : sparing comment (rule :: rules) = sparing comment rules :=
        List.filter_cons_of_neg (by simpa using hr)
      have hnot : rule ∉ before := fun hm => hb rule hm hr
      rw [hg, hn, List.map_cons, executeAll, List.foldlM_cons, execute]
      simp only [List.mem_append, List.mem_cons, true_or, or_true, if_true,
        List.erase_append_right _ hnot, List.erase_cons_head]
      exact ih before hb
    · have hg : carrying comment (rule :: rules) = carrying comment rules :=
        List.filter_cons_of_neg (by simpa using hr)
      have hn : sparing comment (rule :: rules) = rule :: sparing comment rules :=
        List.filter_cons_of_pos (decide_eq_true hr)
      have hi := ih (before ++ [rule]) (fun r hm => by
        rcases List.mem_append.mp hm with hm | hm
        · exact hb r hm
        · rw [List.mem_singleton.mp hm]
          exact hr)
      rw [hg, hn]
      simpa using hi

theorem execute_inserts (rules before : List (List String)) (h : Host) :
    executeAll (rules.map .dockerInsert) { h with dockerUser := some before } =
      some { h with dockerUser := some (rules.reverse ++ before) } := by
  induction rules generalizing before with
  | nil => rfl
  | cons rule rules ih =>
    rw [List.map_cons, executeAll, List.foldlM_cons, execute, List.reverse_cons,
      List.append_assoc]
    exact ih (rule :: before)

theorem execute_sync (comment : String) (wanted rules : List (List String)) (h : Host) :
    executeAll (dockerCommands rules wanted comment) { h with dockerUser := some rules } =
      some { h with dockerUser := some (synced comment wanted rules) } := by
  rw [dockerCommands, planDockerUser_eq, synced]
  split
  · rfl
  · have hd := execute_deletes comment [] rules h (by simp)
    have hi := execute_inserts wanted.reverse (sparing comment rules) h
    rw [List.reverse_reverse] at hi
    rw [executeAll] at hd
    simp only
    rw [executeAll, List.foldlM_append]
    exact (congrArg (· >>= _) hd).trans hi

end

theorem docker_user_converges {comment other : String} {wanted wanted' : List (List String)}
    (hw : OneGroup comment wanted) (hw' : OneGroup other wanted')
    (rules : List (List String)) (h : Host) (hr : h.dockerUser = some rules) :
    (GroupConverges comment wanted rules h ↔
      NoStray comment rules ∧ ¬ Reordered comment wanted rules) ∧
      ((∀ rule ∈ wanted, other ∉ rule) → (∀ rule ∈ wanted', comment ∉ rule) →
        QuietAfter comment wanted other wanted' rules h) := by
  obtain ⟨nft, ips, routes, dockerUser⟩ := h
  obtain rfl : dockerUser = some rules := hr
  have hrun := execute_sync comment wanted rules ⟨nft, ips, routes, some rules⟩
  have hin := inPlace_synced hw.carries rules
  have hquiet : planDockerUser (synced comment wanted rules) wanted comment = ([], []) := by
    rw [planDockerUser_eq, if_pos hin]
  constructor
  · constructor
    · rintro ⟨rules', hrun', has, -⟩
      rw [hrun, Option.some.injEq, Host.mk.injEq, Option.some.injEq] at hrun'
      rw [← hrun'.2.2.2] at has
      have hn := noStray_of_groupAs hw has
      exact ⟨hn, (groupAs_synced hw hn).mp has⟩
    · rintro ⟨hn, hre⟩
      exact ⟨_, hrun, (groupAs_synced hw hn).mpr hre, hquiet⟩
  · intro ha ha'
    have hrun' := execute_sync other wanted' (synced comment wanted rules)
      ⟨nft, ips, routes, some rules⟩
    have hkept := inPlace_kept hin ha
      (fun rule hr => ⟨(hw'.carries rule hr).2, ha' rule hr⟩)
    refine ⟨_, _, hrun, hrun', ?_, ?_⟩
    · rw [planDockerUser_eq, if_pos hkept]
    · rw [planDockerUser_eq, if_pos (inPlace_synced hw'.carries _)]

def lanRules : List (List String) :=
  routerDockerUserRules { role := .home, network := some sampleNetwork }

def tunnelRules : List (List String) :=
  [["-s", "10.78.0.0/24", "-i", "wg0", "-m", "comment", "--comment", egressComment, "-j", "ACCEPT"]]

-- a rule of an owner above ours, and one of ours twice
def shadowedRules : List (List String) := [["-j", "RETURN"]] ++ tunnelRules ++ lanRules ++ lanRules

theorem lanRules_group : OneGroup routerComment lanRules :=
  ⟨by decide +kernel, by decide +kernel, by decide +kernel⟩

theorem tunnelRules_group : OneGroup egressComment tunnelRules :=
  ⟨by decide +kernel, by decide +kernel, by decide +kernel⟩

theorem shadowed_rules_converge :
    GroupConverges routerComment lanRules shadowedRules (cleanHost (some shadowedRules)) ∧
      QuietAfter routerComment lanRules egressComment tunnelRules shadowedRules
        (cleanHost (some shadowedRules)) := by
  have h := docker_user_converges lanRules_group tunnelRules_group shadowedRules
    (cleanHost (some shadowedRules)) rfl
  have hn : NoStray routerComment shadowedRules := by
    unfold NoStray
    decide +kernel
  have hlen : (groupOf routerComment shadowedRules).length ≠ lanRules.length := by decide +kernel
  refine ⟨h.1.mpr ⟨hn, fun hre => hlen hre.2.1.length_eq⟩, h.2 ?_ ?_⟩
  · decide +kernel
  · decide +kernel

-- the drop of what the gateways send into the LAN, above the replies it would let pass
def droppedReplies : List (List String) := lanRules.rotate 2

theorem dropped_replies_stay :
    ¬ GroupConverges routerComment lanRules droppedReplies (cleanHost (some droppedReplies)) ∧
      planDockerUser droppedReplies lanRules routerComment = ([], []) := by
  have hplan : planDockerUser droppedReplies lanRules routerComment = ([], []) := by
    decide +kernel
  refine ⟨?_, hplan⟩
  rintro ⟨rules', hrun, has, -⟩
  rw [dockerCommands, hplan] at hrun
  obtain rfl := Option.some.inj (congrArg Host.dockerUser (Option.some.inj hrun))
  exact absurd has.group (by decide +kernel)

end VibeDPN
