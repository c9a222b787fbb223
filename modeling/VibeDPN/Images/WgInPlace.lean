import VibeDPN.Images.WgEntrypoint

namespace VibeDPN.WgGateway

open Text Inet WgConf

def AllowedIp.v4? : AllowedIp → Option IPv4Network
  | .v4 network => some network
  | .v6 _ _ _ => none

def networks (peers : List WgPeer) : List IPv4Network :=
  peers.flatMap fun p => p.allowedIps.filterMap AllowedIp.v4?

def Routed (peers : List WgPeer) (n : IPv4Network) : Prop := n ∈ networks peers ∧ n.prefixlen ≠ 0

def Full (peers : List WgPeer) : Prop := ∃ n ∈ networks peers, n.prefixlen = 0

instance (peers : List WgPeer) (n : IPv4Network) : Decidable (Routed peers n) :=
  inferInstanceAs (Decidable (_ ∧ _))

def tunnelPolicy : List PolicyRule :=
  [⟨0, .localTable⟩, ⟨100, .returnMark⟩, ⟨32764, .suppress⟩, ⟨32765, .notFwmark⟩, ⟨32766, .main⟩,
    ⟨32767, .default⟩]

def policy (tunnel : Bool) : List PolicyRule := if tunnel then tunnelPolicy else kernelPolicy

theorem routeEverything_policy (tunnel : Bool) :
    insertPolicy ⟨returnRulePriority, .returnMark⟩
      (addPolicy .suppress (addPolicy .notFwmark (removePolicyRules (policy tunnel)))) =
      tunnelPolicy := by
  cases tunnel <;> decide

theorem mem_network_str {n : IPv4Network} {c : Char} (h : c ∈ n.str.toList) :
    isDigit c = true ∨ c = '.' ∨ c = '/' := by
  rw [IPv4Network.str, String.toList_append, String.toList_append, List.mem_append,
    List.mem_append] at h
  rcases h with (h | h) | h
  · exact (mem_str h).imp_right .inl
  · exact .inr (.inr (by simpa using h))
  · exact .inl ((parsePrefix_str ⟨n.prefixlen, Nat.lt_succ_of_le n.prefix_le⟩).2 c h)

theorem colon_not_mem (n : IPv4Network) : n.str.toList.contains ':' = false := by
  rw [Bool.eq_false_iff, ne_eq, List.contains_iff_mem]
  intro h
  rcases mem_network_str h with h | h | h <;> exact absurd h (by decide)

theorem zero_le_32 : 0 ≤ 32 := by decide

theorem everything_strict : (0#32).toNat % 2 ^ (32 - 0) = 0 := by decide

def everything : IPv4Network := ⟨0#32, 0, zero_le_32, everything_strict⟩

theorem everything_str : everything.str = "0.0.0.0/0" := by decide

theorem default_str {n : IPv4Network} : n.str = "0.0.0.0/0" ↔ n.prefixlen = 0 := by
  constructor
  · intro h
    rw [network_str_injective (h.trans everything_str.symm)]
    rfl
  · intro h
    obtain ⟨a, p, hp, hs⟩ := n
    obtain rfl : p = 0 := h
    have ha : a = 0#32 := by
      apply BitVec.eq_of_toNat_eq
      have hlt := a.isLt
      rw [Nat.sub_zero] at hs
      rw [Nat.mod_eq_of_lt hlt] at hs
      exact hs
    subst ha
    exact everything_str

theorem addRoute_v4 (g : Gateway) (n : IPv4Network) : g.addRoute n.str =
    if n.prefixlen = 0 then
      match g.mode with
      | .client => .ok g.routeEverything
      | .server => .error ("AllowedIPs 0.0.0.0/0 in a server config would rewrite the routing of " ++
        "the VPS itself")
    else .ok { g with routes := g.routes.set n .boot } := by
  rw [Gateway.addRoute]
  cases g.mode with
  | client =>
    simp only [default_str, colon_not_mem, parseNetwork_str, Bool.false_eq_true, if_false]
  | server =>
    simp only [default_str, colon_not_mem, parseNetwork_str, Bool.false_eq_true, if_false]

theorem addRoute_v6 (g : Gateway) {text : String} (h : ':' ∈ text.toList) :
    g.addRoute text = .ok g := by
  rw [Gateway.addRoute, if_neg, if_pos]
  · exact List.contains_iff_mem.mpr h
  · rintro rfl
    exact absurd h (by decide)

theorem addRoute_none (g : Gateway) : g.addRoute "(none)" = .error "ip route replace" := by
  rw [Gateway.addRoute, if_neg (by decide), if_neg (by decide)]
  rfl

-- the entries of the listing: an allowed address, or a peer that has none
def entries (peers : List WgPeer) : List (Option AllowedIp) :=
  peers.flatMap fun p => if p.allowedIps.isEmpty then [none] else p.allowedIps.map some

def entryText : Option AllowedIp → String
  | none => "(none)"
  | some a => a.str

theorem allowedIps_eq (peers : List WgPeer) : allowedIps peers = (entries peers).map entryText := by
  rw [allowedIps, entries, List.map_flatMap]
  refine List.flatMap_congr fun p _ => ?_
  split
  · rfl
  · rw [List.map_map]
    rfl

def entryNetwork? (e : Option AllowedIp) : Option IPv4Network := e.bind AllowedIp.v4?

theorem networks_eq (peers : List WgPeer) :
    networks peers = (entries peers).filterMap entryNetwork? := by
  rw [networks, entries, List.filterMap_flatMap]
  refine List.flatMap_congr fun p _ => ?_
  split
  case isTrue hp =>
    rw [List.isEmpty_iff.mp hp]
    rfl
  case isFalse => 
    rw [List.filterMap_map]
    rfl

structure Added (ns : List IPv4Network) (g g' : Gateway) : Prop where
  mode : g'.mode = g.mode
  interface : g'.interface = g.interface
  peers : g'.peers = g.peers
  routes : ∀ n, g'.routes.get? n =
    if n ∈ ns ∧ n.prefixlen ≠ 0 then some .boot else g.routes.get? n
  tunnelTable : g'.tunnelTable = true ↔ g.tunnelTable = true ∨ ∃ n ∈ ns, n.prefixlen = 0
  rules : g.rules = policy g.tunnelTable → g'.rules = policy g'.tunnelTable

theorem Added.refl (g : Gateway) : Added [] g g := ⟨rfl, rfl, rfl, by simp, by simp, id⟩

theorem Added.append {l m : List IPv4Network} {g g' g'' : Gateway} (h : Added l g g')
    (h' : Added m g' g'') : Added (l ++ m) g g'' where
  mode := h'.mode.trans h.mode
  interface := h'.interface.trans h.interface
  peers := h'.peers.trans h.peers
  routes n := by
    rw [h'.routes, h.routes]
    by_cases hm : n ∈ m ∧ n.prefixlen ≠ 0
    · rw [if_pos hm, if_pos ⟨List.mem_append_right _ hm.1, hm.2⟩]
    · rw [if_neg hm]
      refine if_congr ?_ rfl rfl
      rw [List.mem_append, or_and_right, or_iff_left hm]
  tunnelTable := by
    rw [h'.tunnelTable, h.tunnelTable, or_assoc]
    simp only [List.mem_append, or_and_right, exists_or]
  rules hr := h'.rules (h.rules hr)

theorem added_route {n : IPv4Network} {g g' : Gateway} (h : g.addRoute n.str = .ok g') :
    Added [n] g g' := by
  rw [addRoute_v4] at h
  split at h
  case isTrue hn =>
    cases hm : g.mode with
    | server =>
      rw [hm] at h
      cases h
    | client =>
      rw [hm] at h
      cases h
      refine ⟨rfl, rfl, rfl, fun m => ?_, by simp [Gateway.routeEverything, hn], fun hr => ?_⟩
      · rw [if_neg]
        · rfl
        · rintro ⟨hm, h0⟩
          exact h0 (List.mem_singleton.mp hm ▸ hn)
      · rw [Gateway.routeEverything, hr, routeEverything_policy]
        rfl
  case isFalse hn =>
    cases h
    refine ⟨rfl, rfl, rfl, fun m => ?_, ?_, id⟩
    · simp only [Dict.get?_set, List.mem_singleton]
      by_cases hmn : m = n
      · subst hmn
        simp [hn]
      · rw [if_neg hmn, if_neg (fun hc => hmn hc.1)]
    · simp [hn]

theorem added_entry {e : Option AllowedIp} {g g' : Gateway} (h : g.addRoute (entryText e) = .ok g') :
    Added (entryNetwork? e).toList g g' := by
  cases e with
  | none =>
    rw [entryText, addRoute_none] at h
    cases h
  | some a =>
    cases a with
    | v6 text colon _ =>
      rw [entryText, AllowedIp.str, addRoute_v6 g colon] at h
      cases h
      exact .refl g
    | v4 n => exact added_route h

theorem added_of_foldlM {l : List (Option AllowedIp)} {g g' : Gateway}
    (h : (l.map entryText).foldlM Gateway.addRoute g = .ok g') :
    Added (l.filterMap entryNetwork?) g g' := by
  induction l generalizing g with
  | nil =>
    cases h
    exact .refl _
  | cons e l ih =>
    rw [List.map_cons, List.foldlM_cons] at h
    obtain ⟨mid, hm, hl⟩ := bind_ok h
    have hs : (e :: l).filterMap entryNetwork? =
        (entryNetwork? e).toList ++ l.filterMap entryNetwork? := by
      cases he : entryNetwork? e <;> simp [he]
    rw [hs]
    exact (added_entry hm).append (ih hl)

theorem addRoutes_ok {g g' : Gateway} (h : g.addRoutes = .ok g') : Added (networks g.peers) g g' := by
  rw [Gateway.addRoutes, allowedIps_eq] at h
  rw [networks_eq]
  exact added_of_foldlM h

theorem foldlM_addRoute_ok {tokens : List String} {g k g' : Gateway} (hm : k.mode = g.mode)
    (h : tokens.foldlM Gateway.addRoute g = .ok g') :
    ∃ k', tokens.foldlM Gateway.addRoute k = .ok k' := by
  induction tokens generalizing g k with
  | nil => exact ⟨k, rfl⟩
  | cons t tokens ih =>
    rw [List.foldlM_cons] at h
    obtain ⟨mid, hs, hl⟩ := bind_ok h
    have hk : ∃ k', k.addRoute t = .ok k' ∧ k'.mode = k.mode ∧ mid.mode = g.mode := by
      rw [Gateway.addRoute] at hs ⊢
      split at hs
      case isTrue ht =>
        rw [if_pos ht, hm]
        cases hg : g.mode with
        | server =>
          rw [hg] at hs
          cases hs
        | client =>
          rw [hg] at hs
          cases hs
          exact ⟨_, rfl, hm.trans hg, hg⟩
      case isFalse ht =>
        rw [if_neg ht]
        split at hs
        case isTrue hc =>
          cases hs
          exact ⟨k, by rw [if_pos hc], rfl, rfl⟩
        case isFalse hc =>
          rw [if_neg hc]
          cases hp : parseNetwork t with
          | none =>
            rw [hp] at hs
            cases hs
          | some n =>
            rw [hp] at hs
            cases hs
            exact ⟨_, rfl, rfl, rfl⟩
    obtain ⟨k', hk', hm', hmid⟩ := hk
    obtain ⟨k'', hk''⟩ := ih (hm'.trans (hm.trans hmid.symm)) hl
    exact ⟨k'', by rw [List.foldlM_cons, hk']; exact hk''⟩

theorem routeCidr_shown (n : IPv4Network) :
    Gateway.routeCidr (Gateway.shownRoute n) = n.str := by
  rw [Gateway.shownRoute]
  split
  case isTrue hp =>
    have hs : n.address.str.toList.contains '/' = false := by
      rw [Bool.eq_false_iff, ne_eq, List.contains_iff_mem]
      intro h
      rcases mem_str h with h | h <;> exact absurd h (by decide)
    have h32 : "/" ++ toString 32 = "/32" := by decide
    rw [Gateway.routeCidr, hs, if_neg Bool.false_ne_true, IPv4Network.str, hp, String.append_assoc,
      h32]
  case isFalse hp =>
    have hs : n.str.toList.contains '/' = true := by
      rw [List.contains_iff_mem, IPv4Network.str]
      simp
    rw [Gateway.routeCidr, hs, if_pos rfl]

theorem entryNetwork?_eq_some {e : Option AllowedIp} {n : IPv4Network} :
    entryNetwork? e = some n ↔ e = some (.v4 n) := by
  cases e with
  | none => simp [entryNetwork?]
  | some a => cases a <;> simp [entryNetwork?, AllowedIp.v4?]

theorem entryText_eq_str {e : Option AllowedIp} {n : IPv4Network} :
    entryText e = n.str ↔ e = some (.v4 n) := by
  constructor
  · intro h
    cases e with
    | none =>
      have hp : '(' ∈ n.str.toList := by
        rw [← h]
        decide
      rcases mem_network_str hp with hc | hc | hc <;> exact absurd hc (by decide)
    | some a =>
      cases a with
      | v4 m => rw [network_str_injective h]
      | v6 text colon _ =>
        obtain rfl : text = n.str := h
        rw [← List.contains_iff_mem, colon_not_mem] at colon
        cases colon
  · rintro rfl
    rfl

theorem blank_free (peers : List WgPeer) : ∀ t ∈ (allowedIps peers).map String.toList, ' ' ∉ t := by
  intro t ht
  rw [allowedIps_eq, List.map_map, List.mem_map] at ht
  obtain ⟨e, -, rfl⟩ := ht
  cases e with
  | none => decide
  | some a =>
    cases a with
    | v4 n =>
      intro h
      rcases mem_network_str h with hc | hc | hc <;> exact absurd hc (by decide)
    | v6 text _ plain => exact plain

theorem isWanted_iff {peers : List WgPeer} {n : IPv4Network} :
    Gateway.isWanted peers n = true ↔ n ∈ networks peers := by
  have hb : ' ' ∉ n.str.toList := by
    intro h
    rcases mem_network_str h with hc | hc | hc <;> exact absurd hc (by decide)
  have hne : n.str.toList ≠ [] := by
    intro h
    have hs : '/' ∈ n.str.toList := by
      rw [IPv4Network.str]
      simp
    rw [h] at hs
    cases hs
  rw [Gateway.isWanted, Spaced.found_iff, routeCidr_shown, Gateway.wantedText,
    Spaced.infix_iff hb hne (blank_free peers), List.mem_map, allowedIps_eq, networks_eq,
    List.mem_filterMap]
  constructor
  · rintro ⟨t, ht, hs⟩
    obtain rfl := String.toList_inj.mp hs
    obtain ⟨e, he, hn⟩ := List.mem_map.mp ht
    exact ⟨e, he, entryNetwork?_eq_some.mpr (entryText_eq_str.mp hn)⟩
  · rintro ⟨e, he, hn⟩
    exact ⟨n.str, List.mem_map.mpr ⟨e, he, entryText_eq_str.mpr (entryNetwork?_eq_some.mp hn)⟩, rfl⟩

def peersOf (tools : Tools) (mode : Mode) (text : String) : Option (List WgPeer) :=
  tools.wg (stripped (configFwmark mode) text)

def Routable (mode : Mode) (peers : List WgPeer) : Prop :=
  ∃ g k : Gateway, g.mode = mode ∧ g.peers = peers ∧ g.addRoutes = .ok k

theorem Routable.addRoutes {g : Gateway} (h : Routable g.mode g.peers) :
    ∃ k, g.addRoutes = .ok k := by
  obtain ⟨g', k, hm, hp, hk⟩ := h
  rw [Gateway.addRoutes, hp] at hk
  exact foldlM_addRoute_ok hm.symm hk

-- the gateway after a run of files: earlier are the peers that the files before the last gave
structure Follows (connected : List IPv4Network) (earlier : List (List WgPeer)) (g : Gateway) :
    Prop where
  routes : ∀ n, g.routes.get? n =
    if Routed g.peers n then some .boot
    else if n ∈ connected ∧ ∀ peers ∈ earlier, ¬ Routed peers n then some .kernel else none
  tunnelTable : g.tunnelTable = true ↔ ∃ peers ∈ earlier ++ [g.peers], Full peers
  rules : g.rules = policy g.tunnelTable
  routable : Routable g.mode g.peers

theorem connected_get (connected : List IPv4Network) (n : IPv4Network) :
    (Dict.empty.update (connected.map (·, Origin.kernel))).get? n =
      if n ∈ connected then some .kernel else none := by
  have hk : (connected.map (·, Origin.kernel)).map Prod.fst = connected := by
    rw [List.map_map]
    exact List.map_id _
  split
  case isTrue hn =>
    refine Dict.get?_update_of_all (by rwa [hk]) fun e he _ => ?_
    obtain ⟨m, -, rfl⟩ := List.mem_map.mp he
    rfl
  case isFalse hn =>
    rw [Dict.get?_update_of_not_mem (by rwa [hk])]
    rfl

theorem follows_setup {tools : Tools} {mode : Mode} {text : String} {g : Gateway}
    (h : setupInterface tools mode text = .ok g) :
    ∃ addresses, interfaceAddresses tools text = .ok addresses ∧ mtuAccepted tools text = true ∧
      Follows (connectedNetworks tools addresses) [] g ∧ g.mode = mode ∧
      g.interface = interfaceSection text ∧ peersOf tools mode text = some g.peers := by
  rw [setupInterface] at h
  cases hw : tools.wg (stripped (configFwmark mode) text) with
  | none =>
    rw [hw] at h
    cases h
  | some peers =>
    rw [hw] at h
    obtain ⟨addresses, ha, h⟩ := bind_ok h
    split at h
    case isFalse => cases h
    case isTrue hm =>
      have hadd := addRoutes_ok h
      have hp : g.peers = peers := hadd.peers
      have hr : Routable g.mode g.peers := ⟨_, g, hadd.mode.symm, hadd.peers.symm, h⟩
      refine ⟨addresses, ha, hm, ⟨fun n => ?_, ?_, hadd.rules rfl, hr⟩, hadd.mode, hadd.interface,
        by rw [peersOf, hw, hp]⟩
      · rw [hadd.routes, connected_get, hp]
        simp [Routed]
      · rw [hadd.tunnelTable, hp]
        simp [Full]

theorem setup_of_routable {tools : Tools} {mode : Mode} {text : String} {peers : List WgPeer}
    {addresses : List InterfaceAddress} (hp : peersOf tools mode text = some peers)
    (ha : interfaceAddresses tools text = .ok addresses) (hm : mtuAccepted tools text = true)
    (hr : Routable mode peers) : ∃ g, setupInterface tools mode text = .ok g := by
  rw [peersOf] at hp
  simp only [setupInterface, hp, ha, hm, if_true]
  exact Routable.addRoutes (g := ⟨mode, interfaceSection text, peers,
    Dict.empty.update ((connectedNetworks tools addresses).map (·, .kernel)), false, kernelPolicy⟩) hr

theorem sync_ok {g g' : Gateway} (h : g.syncRoutes = .ok g') : ∃ k, g.addRoutes = .ok k ∧
    g' = { k with routes := k.routes.retain fun n origin =>
      origin = .kernel || Gateway.isWanted k.peers n } := by
  obtain ⟨k, hk, h⟩ := bind_ok h
  cases h
  exact ⟨k, hk, rfl⟩

theorem follows_change {tools : Tools} {text : String} {g g' : Gateway}
    {connected : List IPv4Network} {earlier : List (List WgPeer)} (hf : Follows connected earlier g)
    (h : applyConfigChange tools g text = .ok g') :
    Follows connected (earlier ++ [g.peers]) g' ∧ g'.mode = g.mode ∧
      g'.interface = g.interface ∧ interfaceSection text = g.interface ∧
      peersOf tools g.mode text = some g'.peers := by
  rw [applyConfigChange] at h
  split at h
  case isTrue => cases h
  case isFalse hs =>
    cases hw : tools.wg (stripped (configFwmark g.mode) text) with
    | none =>
      rw [hw] at h
      cases h
    | some peers =>
      rw [hw] at h
      obtain ⟨k, hk, rfl⟩ := sync_ok h
      have hadd := addRoutes_ok hk
      have hp : k.peers = peers := hadd.peers
      have hr : Routable k.mode k.peers := ⟨_, k, hadd.mode.symm, hadd.peers.symm, hk⟩
      refine ⟨⟨fun n => ?_, ?_, hadd.rules hf.rules, hr⟩, hadd.mode, hadd.interface,
        not_not.mp hs, by rw [peersOf, hw, hp]⟩
      · have hroutes : k.routes.get? n =
            if Routed peers n then some .boot else g.routes.get? n := hadd.routes n
        simp only [Dict.get?_retain, hroutes, hf.routes, hp]
        by_cases hn : Routed peers n
        · rw [if_pos hn, if_pos hn]
          simp [isWanted_iff.mpr hn.1]
        · rw [if_neg hn, if_neg hn]
          by_cases hg : Routed g.peers n
          · have hw : Gateway.isWanted peers n = false := by
              rw [Bool.eq_false_iff, ne_eq, isWanted_iff]
              exact fun hc => hn ⟨hc, hg.2⟩
            rw [if_pos hg, if_neg fun hc => hc.2 g.peers (by simp) hg]
            simp [hw]
          · rw [if_neg hg]
            by_cases hc : n ∈ connected ∧ ∀ peers ∈ earlier, ¬ Routed peers n
            · rw [if_pos hc, if_pos]
              · rfl
              · refine ⟨hc.1, fun q hq => ?_⟩
                rcases List.mem_append.mp hq with hq | hq
                · exact hc.2 q hq
                · rwa [List.mem_singleton.mp hq]
            · rw [if_neg hc, if_neg]
              · rfl
              · exact fun h => hc ⟨h.1, fun q hq => h.2 q (List.mem_append_left _ hq)⟩
      · rw [hadd.tunnelTable, hf.tunnelTable, hp]
        simp only [List.mem_append, List.mem_singleton, or_and_right, exists_or, exists_eq_left,
          or_assoc, Full]

theorem follows_run {tools : Tools} {changes : List String} {g g' : Gateway}
    {connected : List IPv4Network} {earlier : List (List WgPeer)} (hf : Follows connected earlier g)
    (h : changes.foldlM (applyConfigChange tools) g = .ok g') :
    ∃ seen, Follows connected seen g' ∧ g'.mode = g.mode ∧
      (∀ text ∈ changes, interfaceSection text = g.interface) ∧
      (seen ++ [g'.peers]).map some =
        (earlier ++ [g.peers]).map some ++ changes.map (peersOf tools g.mode) := by
  induction changes generalizing g earlier with
  | nil =>
    cases h
    exact ⟨earlier, hf, rfl, by simp, by simp⟩
  | cons text changes ih =>
    rw [List.foldlM_cons] at h
    obtain ⟨k, hk, h⟩ := bind_ok h
    obtain ⟨hfk, hm, hi, hs, hp⟩ := follows_change hf hk
    obtain ⟨seen, hseen, hm', hall, hpeers⟩ := ih hfk h
    refine ⟨seen, hseen, hm'.trans hm, ?_, ?_⟩
    · intro t ht
      rcases List.mem_cons.mp ht with rfl | ht
      · exact hs
      · exact (hall t ht).trans hi
    · rw [hpeers, hm, List.map_cons, hp]
      simp

structure SameRouting (g k : Gateway) : Prop where
  peers : g.peers = k.peers
  routes : ∀ n, g.routes.get? n = k.routes.get? n
  tunnelTable : g.tunnelTable = k.tunnelTable
  rules : g.rules = k.rules

theorem same_iff {connected : List IPv4Network} {seen : List (List WgPeer)} {g k : Gateway}
    (hg : Follows connected seen g) (hk : Follows connected [] k) (hp : k.peers = g.peers) :
    SameRouting g k ↔ ∀ peers ∈ seen ++ [g.peers], (Full peers → Full g.peers) ∧
      ∀ n ∈ connected, Routed peers n → Routed g.peers n := by
  have hkt : k.tunnelTable = true ↔ Full g.peers := by simp [hk.tunnelTable, hp]
  constructor
  · intro h peers hpeers
    constructor
    · intro hfull
      rw [← hkt, ← h.tunnelTable]
      exact hg.tunnelTable.mpr ⟨peers, hpeers, hfull⟩
    · intro n hn hr
      by_contra hnot
      have hne : peers ∈ seen := by
        rcases List.mem_append.mp hpeers with hs | hs
        · exact hs
        · exact absurd (List.mem_singleton.mp hs ▸ hr) hnot
      have hroutes := h.routes n
      rw [hg.routes, hk.routes, hp, if_neg hnot, if_neg hnot, if_neg fun hc => hc.2 peers hne hr,
        if_pos ⟨hn, by simp⟩] at hroutes
      cases hroutes
  · intro h
    have ht : g.tunnelTable = k.tunnelTable := by
      rw [Bool.eq_iff_iff, hkt, hg.tunnelTable]
      exact ⟨fun ⟨peers, hpeers, hfull⟩ => (h peers hpeers).1 hfull,
        fun hfull => ⟨g.peers, by simp, hfull⟩⟩
    refine ⟨hp.symm, fun n => ?_, ht, by rw [hg.rules, hk.rules, ht]⟩
    rw [hg.routes, hk.routes, hp]
    by_cases hn : Routed g.peers n
    · rw [if_pos hn, if_pos hn]
    · rw [if_neg hn, if_neg hn]
      refine if_congr (and_congr_right fun hc => ?_) rfl rfl
      exact ⟨fun _ => by simp, fun _ peers hpeers hr =>
        hn ((h peers (List.mem_append_left _ hpeers)).2 n hc hr)⟩

theorem interfaceAddresses_congr (tools : Tools) {a b : String}
    (h : interfaceSection a = interfaceSection b) :
    interfaceAddresses tools a = interfaceAddresses tools b := by
  rw [interfaceAddresses, interfaceAddresses, addressTokens, addressTokens, valuesOf_congr h]

theorem mtuAccepted_congr (tools : Tools) {a b : String}
    (h : interfaceSection a = interfaceSection b) : mtuAccepted tools a = mtuAccepted tools b := by
  rw [mtuAccepted, mtuAccepted, valuesOf_congr h]

-- peers changed in place, file after file, against the interface set up from the last file
theorem in_place_iff (tools : Tools) (mode : Mode) (first : String) (changes : List String)
    (g g' : Gateway) (hs : setupInterface tools mode first = .ok g)
    (hr : changes.foldlM (applyConfigChange tools) g = .ok g') :
    ∃ addresses rebuilt, interfaceAddresses tools first = .ok addresses ∧
      setupInterface tools mode ((first :: changes).getLast (by simp)) = .ok rebuilt ∧
      (SameRouting g' rebuilt ↔
        ∀ text ∈ first :: changes, ∀ peers, peersOf tools mode text = some peers →
          (Full peers → Full rebuilt.peers) ∧
            ∀ n ∈ connectedNetworks tools addresses, Routed peers n → Routed rebuilt.peers n) := by
  obtain ⟨addresses, ha, hmtu, hf, rfl, hi, hp⟩ := follows_setup hs
  obtain ⟨seen, hseen, hmode, hall, hpeers⟩ := follows_run hf hr
  have htexts : (seen ++ [g'.peers]).map some = (first :: changes).map (peersOf tools g.mode) := by
    rw [hpeers, List.map_cons, hp]
    rfl
  have hlast : peersOf tools g.mode ((first :: changes).getLast (by simp)) = some g'.peers := by
    have h := congrArg List.getLast? htexts
    rw [List.getLast?_map, List.getLast?_map, List.getLast?_concat,
      List.getLast?_eq_some_getLast (List.cons_ne_nil first changes)] at h
    exact (Option.some.inj h).symm
  have hsection : interfaceSection ((first :: changes).getLast (by simp)) = interfaceSection first := by
    rcases List.mem_cons.mp (List.getLast_mem (List.cons_ne_nil first changes)) with h | h
    · rw [h]
    · rw [hall _ h, hi]
  obtain ⟨rebuilt, hb⟩ := setup_of_routable hlast
    ((interfaceAddresses_congr tools hsection).trans ha)
    ((mtuAccepted_congr tools hsection).trans hmtu) (hmode ▸ hseen.routable)
  obtain ⟨addresses', ha', -, hfb, -, -, hpb⟩ := follows_setup hb
  obtain rfl : addresses' = addresses := Except.ok.inj
    (ha'.symm.trans ((interfaceAddresses_congr tools hsection).trans ha))
  have hpeq : rebuilt.peers = g'.peers := Option.some.inj (hpb.symm.trans hlast)
  refine ⟨addresses', rebuilt, ha, hb, ?_⟩
  rw [same_iff hseen hfb hpeq, hpeq]
  constructor
  · intro h text ht peers hpt
    refine h peers ?_
    have hm : some peers ∈ (seen ++ [g'.peers]).map some := by
      rw [htexts, ← hpt]
      exact List.mem_map_of_mem ht
    simpa using hm
  · intro h peers hpeers'
    have hm : some peers ∈ (first :: changes).map (peersOf tools g.mode) := by
      rw [← htexts]
      exact List.mem_map_of_mem hpeers'
    obtain ⟨text, ht, hpt⟩ := List.mem_map.mp hm
    exact h text ht peers hpt

def fullConf : String :=
  "[Interface]\nPrivateKey = sample\nAddress = 10.77.1.2/24 # the box\n\n" ++
    "[Peer]\nPublicKey = vps\nAllowedIPs = 0.0.0.0/0\n"

def narrowConf : String :=
  "[Interface]\nPrivateKey = sample\nAddress = 10.77.1.2/24\n[Peer]\n" ++
    "PublicKey = vps\nAllowedIPs = 10.77.2.0/24\n"

theorem office_strict : (0x0A4D0200#32).toNat % 2 ^ (32 - 24) = 0 := by decide

def office : IPv4Network := ⟨0x0A4D0200#32, 24, slash24_le, office_strict⟩

def InterfaceAddress.base (a : InterfaceAddress) : IPv4Address :=
  let size := 2 ^ (32 - a.prefixlen)
  BitVec.ofNat 32 (a.address.toNat / size * size)

theorem InterfaceAddress.base_strict (a : InterfaceAddress) :
    a.base.toNat % 2 ^ (32 - a.prefixlen) = 0 := by
  have hlt : a.address.toNat / 2 ^ (32 - a.prefixlen) * 2 ^ (32 - a.prefixlen) < 2 ^ 32 :=
    Nat.lt_of_le_of_lt (Nat.div_mul_le_self _ _) a.address.isLt
  rw [base, BitVec.toNat_ofNat, Nat.mod_eq_of_lt hlt]
  exact Nat.mul_mod_left _ _

def InterfaceAddress.network (a : InterfaceAddress) : IPv4Network :=
  ⟨a.base, a.prefixlen, a.prefix_le, a.base_strict⟩

-- wg(8), ip(8) and the kernel on the two files
def sampleWg (lines : List String) : Option (List WgPeer) :=
  if lines.contains "AllowedIPs = 0.0.0.0/0" then some [⟨"vps", [.v4 everything]⟩]
  else some [⟨"vps", [.v4 office]⟩]

def sampleTools : Tools where
  wg := sampleWg
  address := fun token =>
    if token = "10.77.1.2/24" then some ⟨0x0A4D0102#32, 24, slash24_le⟩ else none
  connected := fun a => some a.network
  mtu := fun _ => true

theorem peersOf_fullConf :
    peersOf sampleTools .client fullConf = some [⟨"vps", [.v4 everything]⟩] := by
  have h : (stripped (configFwmark .client) fullConf).contains "AllowedIPs = 0.0.0.0/0" = true := by
    decide +kernel
  simp only [peersOf, sampleTools, sampleWg, h, if_true]

theorem peersOf_narrowConf :
    peersOf sampleTools .client narrowConf = some [⟨"vps", [.v4 office]⟩] := by
  have h : (stripped (configFwmark .client) narrowConf).contains "AllowedIPs = 0.0.0.0/0" =
      false := by
    decide +kernel
  simp only [peersOf, sampleTools, sampleWg, h, Bool.false_eq_true, if_false]

-- a tunnel for everything narrowed to one network still takes everything
theorem narrowed_in_place : ∃ g g' rebuilt,
    setupInterface sampleTools .client fullConf = .ok g ∧
      [narrowConf].foldlM (applyConfigChange sampleTools) g = .ok g' ∧
      setupInterface sampleTools .client narrowConf = .ok rebuilt ∧ ¬ SameRouting g' rebuilt := by
  have hok : (setupInterface sampleTools .client fullConf >>= fun g =>
      [narrowConf].foldlM (applyConfigChange sampleTools) g).isOk = true := by decide +kernel
  obtain ⟨g', hrun⟩ : ∃ g', (setupInterface sampleTools .client fullConf >>= fun g =>
      [narrowConf].foldlM (applyConfigChange sampleTools) g) = .ok g' := by
    revert hok
    cases (setupInterface sampleTools .client fullConf >>= fun g =>
      [narrowConf].foldlM (applyConfigChange sampleTools) g) with
    | ok g' => exact fun _ => ⟨g', rfl⟩
    | error e => exact fun h => nomatch h
  obtain ⟨g, hs, hr⟩ := bind_ok hrun
  obtain ⟨addresses, rebuilt, -, hb, hiff⟩ :=
    in_place_iff sampleTools .client fullConf [narrowConf] g g' hs hr
  refine ⟨g, g', rebuilt, hs, hr, hb, fun h => ?_⟩
  have hfull := (hiff.mp h fullConf (by simp) _ peersOf_fullConf).1
    ⟨everything, by simp [networks, AllowedIp.v4?], rfl⟩
  obtain ⟨-, -, -, -, -, -, hp⟩ := follows_setup hb
  obtain hp : [⟨"vps", [.v4 office]⟩] = rebuilt.peers :=
    Option.some.inj (peersOf_narrowConf.symm.trans hp)
  obtain ⟨n, hn, h0⟩ := hp ▸ hfull
  have ho : n = office := by simpa [networks, AllowedIp.v4?] using hn
  rw [ho] at h0
  exact absurd h0 (by decide)

end VibeDPN.WgGateway
