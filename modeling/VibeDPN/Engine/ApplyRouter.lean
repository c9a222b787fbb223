import VibeDPN.Lib.Rely
import VibeDPN.Engine.Host
import VibeDPN.Engine.Marks
import VibeDPN.Engine.Numbering

namespace VibeDPN

open Text Prog Relation

def ourCommentPrefix : String := "vibedpn-"

def routerComment : String := "vibedpn-router"

def commentedByUs (rule : List String) : Bool :=
  match (rule.dropWhile (· ≠ "--comment")).tail.head? with
  | some comment => startsWith comment ourCommentPrefix
  | none => false

def planDockerUser (rules wanted : List (List String)) (comment : String) :
    List (List String) × List (List String) :=
  let head := rules.takeWhile commentedByUs
  let ours := rules.filter (fun rule => comment ∈ rule)
  let inHead := head.filter (fun rule => comment ∈ rule)
  if ours.length = wanted.length ∧ inHead.Perm wanted then ([], []) else (ours, wanted)

def gatewayTransit (network : NetworkConfig) (comment replies : List String) :
    List (List String) :=
  match network.wanInterface with
  | none => []
  | some wan =>
    [["-s", network.lanSubnet.str, "-i", network.lanInterface, "-o", wan] ++ comment ++
        ["-j", "ACCEPT"],
      ["-d", network.lanSubnet.str, "-i", wan, "-o", network.lanInterface] ++ replies ++ comment ++
        ["-j", "ACCEPT"]]

def routerDockerUserRules (c : Fields) : List (List String) :=
  match c.network with
  | none => []
  | some network =>
    let lan := network.lanInterface
    let subnet := network.lanSubnet.str
    let comment := ["-m", "comment", "--comment", routerComment]
    let replies := ["-m", "conntrack", "--ctstate", "RELATED,ESTABLISHED"]
    [["-s", subnet, "-i", lan, "-o", upstreamsBridge] ++ comment ++ ["-j", "ACCEPT"],
      ["-d", subnet, "-i", upstreamsBridge, "-o", lan] ++ replies ++ comment ++ ["-j", "ACCEPT"],
      ["-i", upstreamsBridge, "-o", lan] ++ comment ++ ["-j", "DROP"],
      ["-s", subnet, "-i", lan, "-o", lan] ++ comment ++ ["-j", "ACCEPT"],
      ["-d", subnet, "-i", lan, "-o", lan] ++ replies ++ comment ++ ["-j", "ACCEPT"]] ++
      gatewayTransit network comment replies

def syncDockerUser (wanted : List (List String)) (comment : String) : Prog Host Command :=
  .read fun h =>
    match h.dockerUser with
    | none => .done
    | some rules =>
      let plan := planDockerUser rules wanted comment
      commands (plan.1.map .dockerDelete ++ plan.2.reverse.map .dockerInsert) .done

def flushUnused (used : List Uplink) : List Command :=
  (allSlots.filter (fun u => u.table ∉ used.map Uplink.table)).map
    (fun u => .routeFlush u.table)

def removeRouter : Prog Host Command :=
  .exec .nftTeardown (.read fun h =>
    commands ((planRules h.rules []).1.map .ruleDel) (commands (flushUnused [])
      (syncDockerUser [] routerComment)))

def Fields.killSwitch (c : Fields) (u : Uplink) : Command :=
  match c.routing with
  | some routing =>
    if routing.failopen then .routeDel (lastResortRoute u) else .routeReplace (lastResortRoute u)
  | none => .routeDel (lastResortRoute u)

def applyRouter (c : Fields) : Prog Host Command :=
  match routerRuleset c with
  | .error _ => .done
  | .ok none => removeRouter
  | .ok (some rs) =>
    let used := c.uplinksInUse
    .exec (.nftCheck rs) (commands (used.map c.killSwitch) (.read fun h =>
      let plan := planRules h.rules used
      commands (plan.2.map .ruleAdd) (.exec (.nftLoad rs) (commands (plan.1.map .ruleDel)
        (commands (flushUnused used) (syncDockerUser (routerDockerUserRules c) routerComment))))))

def Host.Guards (h : Host) (mark : Nat) : Prop :=
  ∃ u ∈ allSlots, u.mark = mark ∧ uplinkRule u ∈ h.rules ∧ lastResortRoute u ∈ h.routes

structure HostShape (h : Host) : Prop where
  rules : ∀ r ∈ h.rules, r ∈ kernelRules ∨ ∃ u ∈ allSlots, r = uplinkRule u
  nodup : h.rules.Nodup
  prioritised : Prioritised h.rules
  routes : ∀ r ∈ h.routes, ∃ u ∈ allSlots, r = lastResortRoute u ∨ r = gatewayRoute u

structure HostInv (h : Host) : Prop extends HostShape h where
  guarded : ∀ rs, h.nft = some rs → ∀ mark, rs.CanMark mark → mark ≠ blockMark → h.Guards mark

theorem table_inj {u v : Uplink} (hu : u ∈ allSlots) (hv : v ∈ allSlots) (h : u.table = v.table) :
    u = v :=
  List.inj_on_of_nodup_map allSlots_tables hu hv h

theorem mark_inj {u v : Uplink} (hu : u ∈ allSlots) (hv : v ∈ allSlots) (h : u.mark = v.mark) :
    u = v :=
  List.inj_on_of_nodup_map allSlots_marks hu hv h

theorem slot_between {u : Uplink} (hu : u ∈ allSlots) : 0 < u.table ∧ u.table < 32766 := by
  revert u
  decide

theorem hostInv_clean (dockerUser : Option (List (List String))) : HostInv (cleanHost dockerUser) where
  rules := fun _ hr => .inl hr
  nodup := by
    show kernelRules.Nodup
    decide
  prioritised := by
    show kernelRules.Pairwise _
    decide
  routes := fun _ hr => by simp [cleanHost] at hr
  guarded := fun _ hrs => by simp [cleanHost] at hrs

theorem hostInv_routes {h : Host} (hi : HostInv h) {routes : List Route}
    (hr : ∀ r ∈ routes, ∃ u ∈ allSlots, r = lastResortRoute u ∨ r = gatewayRoute u)
    (hk : ∀ u ∈ allSlots, lastResortRoute u ∈ h.routes → lastResortRoute u ∈ routes) :
    HostInv { h with routes := routes } where
  rules := hi.rules
  nodup := hi.nodup
  prioritised := hi.prioritised
  routes := hr
  guarded := fun rs hrs mark hm hb => by
    obtain ⟨u, hu, hum, hur, hul⟩ := hi.guarded rs hrs mark hm hb
    exact ⟨u, hu, hum, hur, hk u hu hul⟩

theorem watcher_routes {h h' : Host} (hw : WatcherStep h h') :
    ∃ u ∈ allSlots, h' = { h with routes := h'.routes } ∧
      (∀ r ∈ h'.routes, r = gatewayRoute u ∨ r ∈ h.routes) ∧
      ∀ v, lastResortRoute v ∈ h.routes → lastResortRoute v ∈ h'.routes := by
  obtain ⟨u, hu, alive, he⟩ := hw
  refine ⟨u, hu, ?_⟩
  cases alive with
  | true =>
    simp only [setGatewayRoute, if_true, execute, Option.some.injEq] at he
    subst he
    refine ⟨rfl, fun r hr => mem_routeReplace hr, fun v hv => lastResort_kept (.inr (.inl ?_)) hv⟩
    simp [gatewayRoute, lastResortMetric]
  | false =>
    simp only [setGatewayRoute, Bool.false_eq_true, if_false, execute, Option.some.injEq] at he
    subst he
    refine ⟨rfl, fun r hr => .inr (List.mem_of_mem_erase hr), fun v hv => ?_⟩
    refine (List.mem_erase_of_ne ?_).mpr hv
    intro hcon
    simp [lastResortRoute, gatewayRoute] at hcon

theorem stable_hostInv : Stable WatcherStep HostInv := by
  intro h h' hi hw
  obtain ⟨u, hu, heq, hr, hk⟩ := watcher_routes hw
  rw [heq]
  refine hostInv_routes hi (fun r hrm => ?_) (fun v _ hv => hk v hv)
  rcases hr r hrm with rfl | hrm
  · exact ⟨u, hu, .inr rfl⟩
  · exact hi.routes r hrm

-- before the new ruleset is loaded: the tables and the rules that are ready for it
structure Stage (lasts : Uplink → Prop) (ready : List IpRule → Prop) (h : Host) : Prop where
  inv : HostInv h
  lasts : ∀ u, lasts u → lastResortRoute u ∈ h.routes
  ready : ready h.rules

theorem stable_stage (lasts : Uplink → Prop) (ready : List IpRule → Prop) :
    Stable WatcherStep (Stage lasts ready) := by
  intro h h' hs hw
  obtain ⟨u, -, heq, -, hk⟩ := watcher_routes hw
  refine ⟨stable_hostInv h h' hs.inv hw, fun v hv => hk v (hs.lasts v hv), ?_⟩
  rw [heq]
  exact hs.ready

theorem hostInv_lastResort {h h' : Host} (hi : HostInv h) {u : Uplink} (hu : u ∈ allSlots)
    (he : execute (.routeReplace (lastResortRoute u)) h = some h') :
    HostInv h' ∧ lastResortRoute u ∈ h'.routes ∧
      ∀ v, lastResortRoute v ∈ h.routes → lastResortRoute v ∈ h'.routes := by
  simp only [execute, Option.some.injEq] at he
  subst he
  have hk : ∀ v, lastResortRoute v ∈ h.routes → lastResortRoute v ∈ lastResortRoute u ::
      h.routes.filter (fun y => ¬(y.table = (lastResortRoute u).table ∧
        y.metric = (lastResortRoute u).metric)) := by
    intro v hv
    by_cases ht : u.table = v.table
    · exact lastResort_kept (.inl (by rw [lastResortRoute, lastResortRoute, ht])) hv
    · exact lastResort_kept (.inr (.inr ht)) hv
  refine ⟨hostInv_routes hi (fun r hr => ?_) (fun v _ hv => hk v hv), by simp, hk⟩
  rcases mem_routeReplace hr with rfl | hr
  · exact ⟨u, hu, .inl rfl⟩
  · exact hi.routes r hr

structure KillSwitchConfig (c : Config) : Prop where
  network : c.network.isSome
  failopen : ∀ routing ∈ c.routing, routing.failopen = false
  slots : ∀ u ∈ c.uplinkTable.values, u ∈ allSlots

namespace KillSwitchConfig

variable {c : Config}

theorem values_sublist (hc : KillSwitchConfig c) : c.uplinkTable.values.Sublist allSlots := by
  apply Fields.uplinkTable_sublist
  by_contra hn
  exact absurd (hc.slots _ (Fields.ninth_exit (Nat.not_le.mp hn))) (by decide)

theorem used_slot (hc : KillSwitchConfig c) {u : Uplink} (hu : u ∈ c.uplinksInUse) : u ∈ allSlots :=
  hc.values_sublist.subset (c.uplinksInUse_sublist.subset hu)

theorem used_tables (hc : KillSwitchConfig c) : (c.uplinksInUse.map Uplink.table).Nodup :=
  allSlots_tables.sublist ((c.uplinksInUse_sublist.trans hc.values_sublist).map _)

theorem killSwitch (hc : KillSwitchConfig c) (u : Uplink) :
    c.killSwitch u = .routeReplace (lastResortRoute u) := by
  have hv : c.role ≠ .vps := fun hv => by
    have h := hc.network
    simp [(Config.vps_sections hv).1] at h
  obtain ⟨routing, hr⟩ := Option.isSome_iff_exists.mp (Config.lan_sections hv).2
  simp [Fields.killSwitch, hr, hc.failopen routing hr]

end KillSwitchConfig

theorem slot_rule {rules : List IpRule}
    (hr : ∀ r ∈ rules, r ∈ kernelRules ∨ ∃ u ∈ allSlots, r = uplinkRule u) {u : Uplink}
    (hu : u ∈ allSlots) {r : IpRule} (h : r ∈ rules) (hp : r.priority = u.table) :
    r = uplinkRule u := by
  rcases hr r h with hk | ⟨v, hv, rfl⟩
  · have hs := slot_between hu
    simp only [kernelRules, List.mem_cons, List.not_mem_nil, or_false] at hk
    rcases hk with rfl | rfl | rfl <;> simp only at hp <;> omega
  · rw [table_inj hv hu hp]

theorem plan_adds {listing : List IpRule}
    (hl : ∀ r ∈ listing, r ∈ kernelRules ∨ ∃ u ∈ allSlots, r = uplinkRule u) {used : List Uplink}
    (hs : ∀ u ∈ used, u ∈ allSlots) (hn : (used.map Uplink.table).Nodup) {u : Uplink}
    (hu : u ∈ used) : u ∈ (planRules listing used).2 ∨ uplinkRule u ∈ listing := by
  by_cases hx : ∃ r ∈ listing, r.priority = u.table
  · obtain ⟨r, hr, hp⟩ := hx
    exact .inr (slot_rule hl (hs u hu) hr hp ▸ hr)
  · refine .inl (mem_planRules_add.mpr ⟨mem_slotTables.mpr ⟨u, hs u hu, rfl⟩,
      byTable_of_nodup hn hu, fun r hr hp => absurd ⟨r, hr, hp⟩ hx⟩)

theorem plan_spares {listing : List IpRule}
    (hl : ∀ r ∈ listing, r ∈ kernelRules ∨ ∃ u ∈ allSlots, r = uplinkRule u)
    (hd : listing.Nodup) {used : List Uplink} (hs : ∀ u ∈ used, u ∈ allSlots)
    (hn : (used.map Uplink.table).Nodup) {s : RuleSelector} (h : s ∈ (planRules listing used).1)
    {u : Uplink} (hu : u ∈ used) : s.matches (uplinkRule u) = false := by
  obtain ⟨table, -, hsp, entry, he, hep, rfl⟩ := mem_planRules_delete h
  by_contra hm
  simp only [RuleSelector.matches, ruleSelector, uplinkRule, Bool.not_eq_false,
    Bool.and_eq_true] at hm
  have ht : table = u.table := hep.symm.trans (of_decide_eq_true hm.1.1).symm
  subst ht
  rw [planAt, byTable_of_nodup hn hu] at hsp
  have hnd : (atPriority listing u.table).Nodup := hd.filter _
  simp only at hsp
  rw [planSlot_exact hnd] at hsp
  · simp at hsp
  · intro r hr
    simp only [atPriority, List.mem_filter, decide_eq_true_eq] at hr
    exact slot_rule hl (hs u hu) hr.1 hr.2

theorem shape_add {h : Host} (hi : HostShape h) {u : Uplink} (hu : u ∈ allSlots)
    (hn : uplinkRule u ∉ h.rules) :
    HostShape { h with rules := insertRule (uplinkRule u) h.rules } where
  rules := fun r hr => by
    rcases mem_insertRule.mp hr with rfl | hr
    · exact .inr ⟨u, hu, rfl⟩
    · exact hi.rules r hr
  nodup := nodup_insertRule hn hi.nodup
  prioritised := prioritised_insertRule hi.prioritised
  routes := hi.routes

theorem shape_delete {h : Host} (hi : HostShape h) (s : RuleSelector) :
    HostShape { h with rules := h.rules.eraseP s.matches } where
  rules := fun r hr => hi.rules r (List.mem_of_mem_eraseP hr)
  nodup := hi.nodup.sublist List.eraseP_sublist
  prioritised := List.Pairwise.sublist List.eraseP_sublist hi.prioritised
  routes := hi.routes

theorem shape_flush {h : Host} (hi : HostShape h) (table : Nat) :
    HostShape { h with routes := h.routes.filter (fun x => x.table ≠ table) } where
  rules := hi.rules
  nodup := hi.nodup
  prioritised := hi.prioritised
  routes := fun r hr => hi.routes r (List.mem_filter.mp hr).1

-- the ruleset of c is loaded and every uplink it can mark for is ready
structure Armed (c : Fields) (rs : RouterRuleset) (h : Host) : Prop where
  shape : HostShape h
  nft : h.nft = some rs
  rule : ∀ u ∈ c.uplinksInUse, uplinkRule u ∈ h.rules
  last : ∀ u ∈ c.uplinksInUse, lastResortRoute u ∈ h.routes

namespace Armed

variable {c : Config} {rs : RouterRuleset} {h : Host}

theorem hostInv (hc : KillSwitchConfig c) (hrs : routerRuleset c.toFields = .ok (some rs))
    (ha : Armed c.toFields rs h) : HostInv h where
  toHostShape := ha.shape
  guarded := fun rs' hrs' mark hm hb => by
    rw [ha.nft, Option.some.injEq] at hrs'
    subst hrs'
    obtain ⟨u, hu, hum⟩ := Fields.canMark_inUse hrs hm hb
    exact ⟨u, hc.used_slot hu, hum, ha.rule u hu, ha.last u hu⟩

theorem stable (c : Fields) (rs : RouterRuleset) : Stable WatcherStep (Armed c rs) := by
  intro h h' ha hw
  obtain ⟨u, hu, heq, hr, hk⟩ := watcher_routes hw
  rw [heq]
  refine ⟨⟨ha.shape.rules, ha.shape.nodup, ha.shape.prioritised, fun r hrm => ?_⟩, ha.nft, ha.rule,
    fun v hv => hk v (ha.last v hv)⟩
  rcases hr r hrm with rfl | hrm
  · exact ⟨u, hu, .inr rfl⟩
  · exact ha.shape.routes r hrm

theorem delete (ha : Armed c.toFields rs h) {s : RuleSelector}
    (hs : ∀ u ∈ c.uplinksInUse, s.matches (uplinkRule u) = false) {h' : Host}
    (he : execute (.ruleDel s) h = some h') : Armed c.toFields rs h' := by
  simp only [execute] at he
  split at he
  · simp only [Option.some.injEq] at he
    subst he
    refine ⟨shape_delete ha.shape s, ha.nft, fun u hu => ?_, ha.last⟩
    exact (List.mem_eraseP_of_neg (by simp [hs u hu])).mpr (ha.rule u hu)
  · simp at he

theorem flush (ha : Armed c.toFields rs h) {table : Nat}
    (ht : table ∉ c.uplinksInUse.map Uplink.table) {h' : Host}
    (he : execute (.routeFlush table) h = some h') : Armed c.toFields rs h' := by
  simp only [execute, Option.some.injEq] at he
  subst he
  refine ⟨shape_flush ha.shape table, ha.nft, ha.rule, fun u hu => ?_⟩
  refine List.mem_filter.mpr ⟨ha.last u hu, ?_⟩
  rw [decide_eq_true_eq]
  intro heq
  exact ht (List.mem_map.mpr ⟨u, hu, heq⟩)

theorem of_dockerUser (ha : Armed c.toFields rs h) (dockerUser : Option (List (List String))) :
    Armed c.toFields rs { h with dockerUser := dockerUser } :=
  ⟨⟨ha.shape.rules, ha.shape.nodup, ha.shape.prioritised, ha.shape.routes⟩, ha.nft, ha.rule, ha.last⟩

theorem docker (ha : Armed c.toFields rs h) {cmd : Command}
    (hcmd : (∃ rule, cmd = .dockerDelete rule) ∨ ∃ rule, cmd = .dockerInsert rule) {h' : Host}
    (he : execute cmd h = some h') : Armed c.toFields rs h' := by
  rcases hcmd with ⟨rule, rfl⟩ | ⟨rule, rfl⟩
  · simp only [execute] at he
    split at he
    · split at he
      · simp only [Option.some.injEq] at he
        exact he ▸ ha.of_dockerUser _
      · simp at he
    · simp at he
  · simp only [execute, Option.map_eq_some_iff] at he
    obtain ⟨rules, -, rfl⟩ := he
    exact ha.of_dockerUser _

theorem safe_sync (hc : KillSwitchConfig c) (hrs : routerRuleset c.toFields = .ok (some rs))
    (ha : Armed c.toFields rs h) (wanted : List (List String)) (comment : String) :
    Safe execute WatcherStep HostInv (syncDockerUser wanted comment) h := by
  refine Safe.of_read (stable c.toFields rs) (fun h ha => ha.hostInv hc hrs) (fun h ha => ?_) ha
  split
  · exact Safe.of_done stable_hostInv (ha.hostInv hc hrs)
  · refine Safe.of_commands (fun _ => Armed c.toFields rs) (fun _ => stable c.toFields rs)
      (fun _ h ha => ha.hostInv hc hrs) ?_
      (fun h ha => Safe.of_done stable_hostInv (ha.hostInv hc hrs)) ha
    intro before cmd after s t hb hs he
    have hmem : cmd ∈ before ++ cmd :: after := by simp
    rw [← hb, List.mem_append, List.mem_map, List.mem_map] at hmem
    refine hs.docker ?_ he
    rcases hmem with ⟨rule, -, rfl⟩ | ⟨rule, -, rfl⟩
    · exact .inl ⟨rule, rfl⟩
    · exact .inr ⟨rule, rfl⟩

theorem safe_flush (hc : KillSwitchConfig c) (hrs : routerRuleset c.toFields = .ok (some rs))
    (ha : Armed c.toFields rs h) {rest : Prog Host Command}
    (hrest : ∀ h, Armed c.toFields rs h → Safe execute WatcherStep HostInv rest h) :
    Safe execute WatcherStep HostInv (commands (flushUnused c.uplinksInUse) rest) h := by
  refine Safe.of_commands (fun _ => Armed c.toFields rs) (fun _ => stable c.toFields rs)
    (fun _ h ha => ha.hostInv hc hrs) ?_ hrest ha
  intro before cmd after s t hb hs he
  have hmem : cmd ∈ before ++ cmd :: after := by simp
  rw [← hb, flushUnused, List.mem_map] at hmem
  obtain ⟨u, hu, rfl⟩ := hmem
  exact hs.flush (by simpa using (List.mem_filter.mp hu).2) he

theorem safe_delete (hc : KillSwitchConfig c) (hrs : routerRuleset c.toFields = .ok (some rs))
    (ha : Armed c.toFields rs h) {selectors : List RuleSelector}
    (hs : ∀ s ∈ selectors, ∀ u ∈ c.uplinksInUse, s.matches (uplinkRule u) = false)
    {rest : Prog Host Command}
    (hrest : ∀ h, Armed c.toFields rs h → Safe execute WatcherStep HostInv rest h) :
    Safe execute WatcherStep HostInv (commands (selectors.map .ruleDel) rest) h := by
  refine Safe.of_commands (fun _ => Armed c.toFields rs) (fun _ => stable c.toFields rs)
    (fun _ h ha => ha.hostInv hc hrs) ?_ hrest ha
  intro before cmd after s t hb hst he
  have hmem : cmd ∈ before ++ cmd :: after := by simp
  rw [← hb, List.mem_map] at hmem
  obtain ⟨sel, hsel, rfl⟩ := hmem
  exact hst.delete (hs sel hsel) he

end Armed

theorem hostInv_add {h h' : Host} (hi : HostInv h) {u : Uplink} (hu : u ∈ allSlots)
    (he : execute (.ruleAdd u) h = some h') :
    HostInv h' ∧ h'.routes = h.routes ∧ ∀ r, r ∈ h'.rules ↔ r = uplinkRule u ∨ r ∈ h.rules := by
  simp only [execute] at he
  split at he
  · simp at he
  · rename_i hn
    simp only [Option.some.injEq] at he
    subst he
    refine ⟨⟨shape_add hi.toHostShape hu hn, fun rs hrs mark hm hb => ?_⟩, rfl,
      fun r => mem_insertRule⟩
    obtain ⟨v, hv, hvm, hvr, hvl⟩ := hi.guarded rs hrs mark hm hb
    exact ⟨v, hv, hvm, mem_insertRule.mpr (.inr hvr), hvl⟩

theorem stage_add {c : Config} (hc : KillSwitchConfig c) {lasts : Uplink → Prop}
    {listing : List IpRule} {before : List Command} {u : Uplink} (hu : u ∈ c.uplinksInUse)
    {h h' : Host}
    (hs : Stage lasts (fun rules => (∀ r ∈ listing, r ∈ rules) ∧
      ∀ u, .ruleAdd u ∈ before → uplinkRule u ∈ rules) h)
    (he : execute (.ruleAdd u) h = some h') :
    Stage lasts (fun rules => (∀ r ∈ listing, r ∈ rules) ∧
      ∀ v, .ruleAdd v ∈ before ++ [.ruleAdd u] → uplinkRule v ∈ rules) h' := by
  obtain ⟨hi', hroutes, hrules⟩ := hostInv_add hs.inv (hc.used_slot hu) he
  refine ⟨hi', fun v hv => hroutes ▸ hs.lasts v hv, fun r hr => ?_, fun v hv => ?_⟩
  · exact (hrules r).mpr (.inr (hs.ready.1 r hr))
  · rcases List.mem_append.mp hv with hv | hv
    · exact (hrules _).mpr (.inr (hs.ready.2 v hv))
    · rw [List.mem_singleton, Command.ruleAdd.injEq] at hv
      exact (hrules _).mpr (.inl (by rw [hv]))

theorem safe_load {c : Config} (hc : KillSwitchConfig c) {rs : RouterRuleset}
    (hrs : routerRuleset c.toFields = .ok (some rs)) {selectors : List RuleSelector}
    (hsel : ∀ s ∈ selectors, ∀ u ∈ c.uplinksInUse, s.matches (uplinkRule u) = false) {h : Host}
    (hs : Stage (· ∈ c.uplinksInUse) (fun rules => ∀ u ∈ c.uplinksInUse, uplinkRule u ∈ rules) h)
    (wanted : List (List String)) (comment : String) :
    Safe execute WatcherStep HostInv (.exec (.nftLoad rs) (commands (selectors.map .ruleDel)
      (commands (flushUnused c.uplinksInUse) (syncDockerUser wanted comment)))) h := by
  refine Safe.of_exec (stable_stage _ _) (fun _ hs => hs.inv) (fun h h' hs he => ?_) hs
  simp only [execute, Option.some.injEq] at he
  subst he
  have ha : Armed c.toFields rs { h with nft := some rs } :=
    ⟨⟨hs.inv.rules, hs.inv.nodup, hs.inv.prioritised, hs.inv.routes⟩, rfl, hs.ready, hs.lasts⟩
  refine ha.safe_delete hc hrs hsel (fun h ha => ?_)
  exact ha.safe_flush hc hrs (fun h ha => ha.safe_sync hc hrs wanted comment)

theorem safe_applyRouter {c : Config} (hc : KillSwitchConfig c) {h : Host} (hi : HostInv h) :
    Safe execute WatcherStep HostInv (applyRouter c.toFields) h := by
  obtain ⟨rs, hrs⟩ := Config.routerRuleset_total hc.network
  rw [applyRouter, hrs]
  refine Safe.of_exec stable_hostInv (fun _ hi => hi) (fun h h' hi he => ?_) hi
  simp only [execute, Option.some.injEq] at he
  subst he
  refine Safe.of_commands
    (fun before => Stage (fun u => .routeReplace (lastResortRoute u) ∈ before) (fun _ => True))
    (fun _ => stable_stage _ _) (fun _ _ hs => hs.inv) ?_ (fun h hs => ?_)
    ⟨hi, fun u hu => by simp at hu, trivial⟩
  · intro before cmd after h h' hb hs he
    have hmem : cmd ∈ before ++ cmd :: after := by simp
    rw [← hb, List.mem_map] at hmem
    obtain ⟨u, hu, rfl⟩ := hmem
    rw [hc.killSwitch] at he ⊢
    obtain ⟨hi', hl, hk⟩ := hostInv_lastResort hs.inv (hc.used_slot hu) he
    refine ⟨hi', fun v hv => ?_, trivial⟩
    rcases List.mem_append.mp hv with hv | hv
    · exact hk v (hs.lasts v hv)
    · rw [List.mem_singleton, Command.routeReplace.injEq] at hv
      rwa [hv]
  have hlast : Stage (· ∈ c.uplinksInUse) (fun _ => True) h :=
    ⟨hs.inv, fun u hu => hs.lasts u (List.mem_map.mpr ⟨u, hu, hc.killSwitch u⟩), trivial⟩
  refine Safe.of_read (stable_stage _ _) (fun _ hs => hs.inv) (fun h hs => ?_) hlast
  have hslot : ∀ u ∈ c.uplinksInUse, u ∈ allSlots := fun u hu => hc.used_slot hu
  have hspare : ∀ s ∈ (planRules h.rules c.uplinksInUse).1, ∀ u ∈ c.uplinksInUse,
      s.matches (uplinkRule u) = false := fun s hsm u hu =>
    plan_spares hs.inv.rules hs.inv.nodup hslot hc.used_tables hsm hu
  have hadds : ∀ u ∈ c.uplinksInUse, u ∈ (planRules h.rules c.uplinksInUse).2 ∨
      uplinkRule u ∈ h.rules := fun u hu => plan_adds hs.inv.rules hslot hc.used_tables hu
  refine Safe.of_commands
    (fun before => Stage (· ∈ c.uplinksInUse) (fun rules => (∀ r ∈ h.rules, r ∈ rules) ∧
      ∀ u, .ruleAdd u ∈ before → uplinkRule u ∈ rules))
    (fun _ => stable_stage _ _) (fun _ _ hs => hs.inv) ?_ (fun h' hs' => ?_)
    ⟨hs.inv, hs.lasts, fun _ hr => hr, fun u hu => by simp at hu⟩
  · intro before cmd after h1 h2 hb hs1 he
    have hmem : cmd ∈ before ++ cmd :: after := by simp
    rw [← hb, List.mem_map] at hmem
    obtain ⟨u, hu, rfl⟩ := hmem
    exact stage_add hc (byTable_some (mem_planRules_add.mp hu).2.1).1 hs1 he
  · refine safe_load hc hrs hspare ⟨hs'.inv, hs'.lasts, fun u hu => ?_⟩ _ _
    rcases hadds u hu with hu | hu
    · exact hs'.ready.2 u (List.mem_map.mpr ⟨u, hu, rfl⟩)
    · exact hs'.ready.1 _ hu

namespace Host

theorem lookup_slot {h : Host} (hi : HostShape h) {u : Uplink} (hu : u ∈ allSlots)
    (hl : lastResortRoute u ∈ h.routes) :
    h.lookup u.table = some (.via u.gateway upstreamsBridge) ∨ h.lookup u.table = some .unreachable := by
  have hmem : lastResortRoute u ∈ h.routes.filter (fun r => r.table = u.table) :=
    List.mem_filter.mpr ⟨hl, by simp [lastResortRoute]⟩
  rw [lookup]
  cases hm : (h.routes.filter (fun r => r.table = u.table)).argmin Route.metric with
  | none =>
    rw [List.argmin_eq_none.mp hm] at hmem
    simp at hmem
  | some r =>
    obtain ⟨hr, ht⟩ := List.mem_filter.mp (List.argmin_mem hm)
    rw [decide_eq_true_eq] at ht
    obtain ⟨v, hv, rfl | rfl⟩ := hi.routes r hr
    · exact .inr rfl
    · rw [table_inj hv hu ht]
      exact .inl rfl

theorem walk_guarded {h : Host} (hi : HostShape h) {u : Uplink} (hu : u ∈ allSlots)
    (hl : lastResortRoute u ∈ h.routes) (meets : String × String → Bool) {rules : List IpRule}
    (hr : ∀ r ∈ rules, r ∈ kernelRules ∨ ∃ v ∈ allSlots, r = uplinkRule v)
    (hp : Prioritised rules) (hm : uplinkRule u ∈ rules) :
    h.walk meets u.mark rules = .leaves u.gateway ∨ h.walk meets u.mark rules = .refused := by
  induction rules with
  | nil => simp at hm
  | cons r rules ih =>
    obtain ⟨hb, hrest⟩ := List.pairwise_cons.mp hp
    have hskip : r ≠ uplinkRule u → h.walk meets u.mark (r :: rules) = h.walk meets u.mark rules →
        h.walk meets u.mark (r :: rules) = .leaves u.gateway ∨
          h.walk meets u.mark (r :: rules) = .refused := by
      intro hne heq
      rw [heq]
      exact ih (fun x hx => hr x (by simp [hx])) hrest
        ((List.mem_cons.mp hm).resolve_left (fun he => hne he.symm))
    rcases hr r (by simp) with hk | ⟨v, hv, rfl⟩
    · have hlow : r ≠ uplinkRule u → r.priority ≤ u.table := fun hne =>
        hb _ ((List.mem_cons.mp hm).resolve_left (fun he => hne he.symm))
      have hs := slot_between hu
      simp only [kernelRules, List.mem_cons, List.not_mem_nil, or_false] at hk
      rcases hk with rfl | rfl | rfl
      · exact hskip (by simp [uplinkRule]) (by simp [walk, admits])
      · have := hlow (by simp [uplinkRule])
        simp only at this
        omega
      · have := hlow (by simp [uplinkRule])
        simp only at this
        omega
    · by_cases hvu : v = u
      · subst hvu
        rcases lookup_slot hi hu hl with hlk | hlk
        · exact .inl (by simp [walk, admits, uplinkRule, hlk])
        · exact .inr (by simp [walk, admits, uplinkRule, hlk])
      · have hmark : v.mark ≠ u.mark := fun he => hvu (mark_inj hv hu he)
        have hne : uplinkRule v ≠ uplinkRule u := fun he => hmark (by
          simpa [uplinkRule] using congrArg IpRule.fwmark he)
        exact hskip hne (by simp [walk, admits, uplinkRule, hmark])

end Host

def RouterCall (p : Prog Host Command) : Prop :=
  ∃ c : Config, KillSwitchConfig c ∧ p = applyRouter c.toFields

def Reaches (dockerUser : Option (List (List String))) (m : Machine Host Command) : Prop :=
  ReflTransGen (Move execute WatcherStep RouterCall) ⟨cleanHost dockerUser, .done⟩ m

theorem hostInv_reaches {dockerUser : Option (List (List String))} {m : Machine Host Command}
    (hm : Reaches dockerUser m) : HostInv m.state :=
  Safe.reachable stable_hostInv (fun _ ⟨_, hc, hp⟩ _ hi => hp ▸ safe_applyRouter hc hi)
    (hostInv_clean dockerUser) hm

theorem kill_switch_never_gaps {dockerUser : Option (List (List String))}
    {m : Machine Host Command} (hm : Reaches dockerUser m) {rs : RouterRuleset}
    (hrs : m.state.nft = some rs) {mark : Nat} (hmark : rs.CanMark mark) (hb : mark ≠ blockMark)
    (meets : String × String → Bool) :
    ∃ u ∈ allSlots, u.mark = mark ∧ uplinkRule u ∈ m.state.rules ∧
      lastResortRoute u ∈ m.state.routes ∧
      (m.state.fate meets mark = .leaves u.gateway ∨ m.state.fate meets mark = .refused) := by
  have hi := hostInv_reaches hm
  obtain ⟨u, hu, rfl, hr, hl⟩ := hi.guarded rs hrs mark hmark hb
  exact ⟨u, hu, rfl, hr, hl,
    Host.walk_guarded hi.toHostShape hu hl meets hi.rules hi.prioritised hr⟩

def fullDpn : Config where
  role := .home
  network := some sampleNetwork
  routing := some { mode := .full, defaultUpstream := dpnKey }
  upstreams := { dpn := { enabled := true } }
  valid := by decide

theorem fullDpn_killSwitch : KillSwitchConfig fullDpn :=
  ⟨by decide, by decide, by decide⟩

def fullHost : Host := run execute (applyRouter fullDpn.toFields) (cleanHost (some []))

theorem fullHost_reached : Reaches (some []) ⟨fullHost, .done⟩ :=
  .head (.call _ _ ⟨fullDpn, fullDpn_killSwitch, rfl⟩) (reaches_run execute WatcherStep RouterCall _ _)

def lanPacket : Packet :=
  { iif := "eth0", etherSaddr := ⟨"02:00:00:00:00:01", by decide⟩, saddr := 0xC0A80110#32,
    daddr := 0x08080808#32 }

theorem fullHost_nft : fullHost.nft.isSome := by decide

theorem fullHost_mark :
    (fullHost.nft.get fullHost_nft).prerouting (fun _ => []) lanPacket = some 0x20 := by decide

theorem kill_switch_full : ∃ u ∈ allSlots, u.mark = 0x20 ∧ uplinkRule u ∈ fullHost.rules ∧
    lastResortRoute u ∈ fullHost.routes ∧
    (fullHost.fate (fun _ => true) 0x20 = .leaves u.gateway ∨
      fullHost.fate (fun _ => true) 0x20 = .refused) :=
  kill_switch_never_gaps fullHost_reached (Option.some_get fullHost_nft).symm
    ⟨fun _ => [], lanPacket, .inl fullHost_mark⟩ (by decide) _
end VibeDPN
