import VibeDPN.Engine.Rules
import VibeDPN.Engine.Ruleset

namespace VibeDPN

inductive RouteTarget where
  | unreachable
  | via (gateway : String) (dev : String)
deriving DecidableEq, Repr

structure Route where
  table : Nat
  metric : Nat
  target : RouteTarget
deriving DecidableEq, Repr

def lastResortMetric : Nat := 4294967295

def upstreamsBridge : String := "vibedpn0"

def lastResortRoute (u : Uplink) : Route := ⟨u.table, lastResortMetric, .unreachable⟩

def gatewayRoute (u : Uplink) : Route := ⟨u.table, 0, .via u.gateway upstreamsBridge⟩

-- dockerUser: the rules of the chain DOCKER-USER, none where neither backend has it
structure Host where
  nft : Option RouterRuleset
  rules : List IpRule
  routes : List Route
  dockerUser : Option (List (List String))
deriving DecidableEq

inductive Command where
  | nftCheck (rs : RouterRuleset)
  | nftLoad (rs : RouterRuleset)
  | nftTeardown
  | routeReplace (r : Route)
  | routeDel (r : Route)
  | routeFlush (table : Nat)
  | ruleAdd (u : Uplink)
  | ruleDel (s : RuleSelector)
  | dockerDelete (rule : List String)
  | dockerInsert (rule : List String)

def insertRule (r : IpRule) : List IpRule → List IpRule
  | [] => [r]
  | b :: rules => if r.priority < b.priority then r :: b :: rules else b :: insertRule r rules

-- none: the command fails, so the call raises; deleting a missing route is let pass
def execute : Command → Host → Option Host
  | .nftCheck _, h => some h
  | .nftLoad rs, h => some { h with nft := some rs }
  | .nftTeardown, h => some { h with nft := none }
  | .routeReplace r, h => some { h with
      routes := r :: h.routes.filter (fun x => ¬(x.table = r.table ∧ x.metric = r.metric)) }
  | .routeDel r, h => some { h with routes := h.routes.erase r }
  | .routeFlush table, h => some { h with routes := h.routes.filter (fun x => x.table ≠ table) }
  | .ruleAdd u, h =>
    if uplinkRule u ∈ h.rules then none
    else some { h with rules := insertRule (uplinkRule u) h.rules }
  | .ruleDel s, h =>
    if h.rules.any s.matches then some { h with rules := h.rules.eraseP s.matches } else none
  | .dockerDelete rule, h =>
    match h.dockerUser with
    | some rules => if rule ∈ rules then some { h with dockerUser := some (rules.erase rule) } else none
    | none => none
  | .dockerInsert rule, h => h.dockerUser.map (fun rules => { h with dockerUser := some (rule :: rules) })

def setGatewayRoute (u : Uplink) (alive : Bool) : Command :=
  if alive then .routeReplace (gatewayRoute u) else .routeDel (gatewayRoute u)

-- a watcher's command may succeed or fail
def WatcherStep (h h' : Host) : Prop :=
  ∃ u ∈ allSlots, ∃ alive, execute (setGatewayRoute u alive) h = some h'

def kernelRules : List IpRule :=
  [{ priority := 0, table := some .local }, { priority := 32766, table := some .main },
    { priority := 32767, table := some .default }]

def cleanHost (dockerUser : Option (List (List String))) : Host := ⟨none, kernelRules, [], dockerUser⟩

inductive Fate where
  | leaves (gateway : String)
  | refused
  | main
deriving DecidableEq, Repr

namespace Host

def lookup (h : Host) (table : Nat) : Option RouteTarget :=
  ((h.routes.filter (fun r => r.table = table)).argmin Route.metric).map Route.target

-- meets: which of the other selectors of a rule the packet meets
def admits (meets : String × String → Bool) (mark : Nat) (r : IpRule) : Bool :=
  (r.fwmark = none || r.fwmark = some mark) && r.selectors.all meets

-- a marked packet has a destination beyond the box, which table local does not hold
def walk (h : Host) (meets : String × String → Bool) (mark : Nat) : List IpRule → Fate
  | [] => .refused
  | r :: rules =>
    if admits meets mark r then
      match r.table with
      | some (.id table) =>
        match h.lookup table with
        | some (.via gateway _) => .leaves gateway
        | some .unreachable => .refused
        | none => h.walk meets mark rules
      | some .main => .main
      | _ => h.walk meets mark rules
    else h.walk meets mark rules

def fate (h : Host) (meets : String × String → Bool) (mark : Nat) : Fate :=
  h.walk meets mark h.rules

end Host

theorem mem_insertRule {r x : IpRule} {rules : List IpRule} :
    x ∈ insertRule r rules ↔ x = r ∨ x ∈ rules := by
  induction rules with
  | nil => simp [insertRule]
  | cons b rules ih =>
    rw [insertRule]
    split
    · simp
    · rw [List.mem_cons, ih, List.mem_cons]
      tauto

theorem nodup_insertRule {r : IpRule} {rules : List IpRule} (hr : r ∉ rules) (h : rules.Nodup) :
    (insertRule r rules).Nodup := by
  induction rules with
  | nil => simp [insertRule]
  | cons b rules ih =>
    rw [insertRule]
    rw [List.nodup_cons] at h
    rw [List.mem_cons, not_or] at hr
    split
    · simp only [List.nodup_cons, List.mem_cons, not_or]
      exact ⟨⟨hr.1, hr.2⟩, h.1, h.2⟩
    · rw [List.nodup_cons, mem_insertRule]
      refine ⟨?_, ih hr.2 h.2⟩
      rintro (hb | hb)
      · exact hr.1 hb.symm
      · exact h.1 hb

def Prioritised (rules : List IpRule) : Prop := rules.Pairwise (fun a b => a.priority ≤ b.priority)

theorem prioritised_insertRule {r : IpRule} {rules : List IpRule} (h : Prioritised rules) :
    Prioritised (insertRule r rules) := by
  induction rules with
  | nil => simp [insertRule, Prioritised]
  | cons b rules ih =>
    obtain ⟨hb, hrest⟩ := List.pairwise_cons.mp h
    rw [insertRule]
    split
    · rename_i hlt
      refine List.pairwise_cons.mpr ⟨?_, h⟩
      intro x hx
      rcases List.mem_cons.mp hx with rfl | hx
      · exact hlt.le
      · exact hlt.le.trans (hb x hx)
    · rename_i hnlt
      refine List.pairwise_cons.mpr ⟨?_, ih hrest⟩
      intro x hx
      rcases mem_insertRule.mp hx with rfl | hx
      · exact Nat.not_lt.mp hnlt
      · exact hb x hx

theorem mem_routeReplace {r x : Route} {routes : List Route}
    (h : x ∈ r :: routes.filter (fun y => ¬(y.table = r.table ∧ y.metric = r.metric))) :
    x = r ∨ x ∈ routes := by
  rcases List.mem_cons.mp h with rfl | h
  · exact .inl rfl
  · exact .inr (List.mem_filter.mp h).1

theorem lastResort_kept {r : Route} {u : Uplink} {routes : List Route}
    (hr : r = lastResortRoute u ∨ r.metric ≠ lastResortMetric ∨ r.table ≠ u.table)
    (h : lastResortRoute u ∈ routes) :
    lastResortRoute u ∈ r :: routes.filter (fun y => ¬(y.table = r.table ∧ y.metric = r.metric)) := by
  rcases hr with rfl | hr
  · simp
  · refine List.mem_cons_of_mem _ (List.mem_filter.mpr ⟨h, ?_⟩)
    rw [decide_eq_true_eq]
    rintro ⟨ht, hm⟩
    rcases hr with hr | hr
    · exact hr hm.symm
    · exact hr ht.symm

end VibeDPN
