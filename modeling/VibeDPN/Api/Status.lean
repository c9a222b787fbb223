import VibeDPN.Lib.Runs
import VibeDPN.Compose.Services
import VibeDPN.ConfigEdit.Exits
import VibeDPN.Engine.Adguard

namespace VibeDPN

open Text

structure UplinkState where
  alive : Bool
  checkedAt : Rat
  error : String

structure RoutingFacts where
  rulesCurrent : Option Bool
  gatewayRoutes : Dict String (Option Bool)
  lastResortRoutes : Dict String (Option Bool)

structure UplinkStatus where
  name : String
  enabled : Bool
  inUse : Bool
  gatewayAlive : Option Bool
  checkedAt : Option Rat
  error : String
  gatewayRoute : Option Bool
  killSwitchRoute : Option Bool
  lanAccess : Option Bool

structure BoxStatus where
  mode : String
  defaultUpstream : String
  failopen : Bool
  rulesCurrent : Option Bool
  lanWithoutExit : Bool
  uplinks : List UplinkStatus

inductive StatusError where
  | http (status : Nat) (detail : String)
  | valueError
  | stopIteration

def uplinkStatus (box : Fields) (states : Dict String UplinkState) (facts : RoutingFacts)
    (key : String) : Except StatusError UplinkStatus :=
  match box.upstreams.isKeyEnabled key with
  | none => .error .valueError
  | some enabled =>
    let state := states.get? key
    .ok
      { name := key
        enabled := enabled
        inUse := key ∈ box.usedUplinks
        gatewayAlive := state.map UplinkState.alive
        checkedAt := state.map UplinkState.checkedAt
        error := (state.map UplinkState.error).getD ""
        gatewayRoute := (facts.gatewayRoutes.get? key).getD none
        killSwitchRoute := (facts.lastResortRoutes.get? key).getD none
        lanAccess :=
          if key = Upstream.vps.value then some box.upstreams.vps.lanAccess else none }

def uplinkStatuses (box : Fields) (states : Dict String UplinkState) (facts : RoutingFacts) :
    Except StatusError (List UplinkStatus) :=
  box.uplinkTable.keys.mapM (uplinkStatus box states facts)

def status (box : Fields) (states : Dict String UplinkState) (facts : RoutingFacts) :
    Except StatusError BoxStatus :=
  match box.routing with
  | none => .error (.http 404 "this box routes no LAN")
  | some routing => do
    let uplinks ← uplinkStatuses box states facts
    match uplinks.find? (fun item => item.name = routing.defaultUpstream.val) with
    | none => .error .stopIteration
    | some modeUplink =>
      .ok
        { mode := routing.mode.value
          defaultUpstream := routing.defaultUpstream.val
          failopen := routing.failopen
          rulesCurrent := facts.rulesCurrent
          lanWithoutExit :=
            routing.mode = .full && modeUplink.gatewayAlive = some false && !routing.failopen
          uplinks := uplinks }

-- while the mode is off, an exit the default names is still listed in upstreams.wg
def Fields.ExitListed (c : Fields) : Prop :=
  ∀ routing, c.routing = some routing → routing.mode = .off →
    ∀ name, routing.defaultUpstream.val = wgKey name → name ∈ c.upstreams.wg.keys

def Fields.KnownDefault (c : Fields) : Prop :=
  ∀ routing, c.routing = some routing → routing.defaultUpstream.val ∈ c.uplinkTable.keys

theorem uplinkKey_cases (key : UplinkKey) :
    (∃ up : Upstream, key.val = up.value) ∨ ∃ name : WgName, key.val = wgKey name := by
  have hkey := key.property
  rw [isUplinkKey] at hkey
  split at hkey
  · rename_i hs
    obtain ⟨t, ht⟩ := startsWith_iff.mp hs
    rw [ht, removePrefix_append] at hkey
    exact .inr ⟨⟨t, hkey⟩, ht⟩
  · obtain ⟨up, hup⟩ := Option.isSome_iff_exists.mp hkey
    have hv : up.value = key.val := by simpa using List.find?_some hup
    exact .inl ⟨up, hv.symm⟩

namespace Fields

variable {c : Fields}

theorem uplinkTable_keys (c : Fields) : c.uplinkTable.keys =
    fixedUplinks.map Prod.fst ++ c.ruleCountries.map countryKey ++ c.exitNames.map wgKey := by
  have hc : (c.countryUplinks.map (fun e => (countryKey e.1, e.2))).map Prod.fst =
      c.ruleCountries.map countryKey := by
    rw [← slots_fst c.ruleCountries countrySlot, List.map_map, List.map_map]
    rfl
  have hw : (c.wgUplinks.map (fun e => (wgKey e.1, e.2))).map Prod.fst = c.exitNames.map wgKey := by
    rw [← slots_fst c.exitNames wgSlot, List.map_map, List.map_map]
    rfl
  rw [Dict.keys, uplinkTable_entries, List.map_append, List.map_append, hc, hw]

theorem value_mem_table (c : Fields) (up : Upstream) : up.value ∈ c.uplinkTable.keys := by
  rw [← Dict.get?_isSome_iff, c.uplinkTable_fixed up]
  rfl

theorem wgKey_mem_table {name : WgName} :
    wgKey name ∈ c.uplinkTable.keys ↔ name ∈ c.upstreams.wg.keys := by
  rw [uplinkTable_keys, List.mem_append, List.mem_append, ← mem_exitNames,
    List.mem_map_of_injective (fun _ _ => wgKey_injective)]
  constructor
  · rintro ((h | h) | h)
    · simp only [fixedUplinks, List.map_map, List.mem_map] at h
      obtain ⟨up, -, he⟩ := h
      exact absurd he (value_ne_wgKey up name)
    · obtain ⟨country, -, he⟩ := List.mem_map.mp h
      exact absurd he (countryKey_ne_wgKey country name)
    · exact h
  · exact .inr

theorem table_key_enabled {key : String} (h : key ∈ c.uplinkTable.keys) :
    ∃ enabled, c.upstreams.isKeyEnabled key = some enabled := by
  rw [uplinkTable_keys, List.mem_append, List.mem_append] at h
  rcases h with (h | h) | h
  · simp only [fixedUplinks, List.map_map, List.mem_map] at h
    obtain ⟨up, -, rfl⟩ := h
    exact ⟨_, c.upstreams.isKeyEnabled_value up⟩
  · obtain ⟨country, -, rfl⟩ := List.mem_map.mp h
    exact ⟨_, c.upstreams.isKeyEnabled_country country⟩
  · obtain ⟨name, -, rfl⟩ := List.mem_map.mp h
    exact ⟨_, c.upstreams.isKeyEnabled_wg name⟩

end Fields

section

variable {c : Fields} {states : Dict String UplinkState} {facts : RoutingFacts}

theorem uplinkStatuses_names (c : Fields) (states : Dict String UplinkState)
    (facts : RoutingFacts) : ∃ items, uplinkStatuses c states facts = .ok items ∧
      items.map UplinkStatus.name = c.uplinkTable.keys := by
  have hall : ∀ key ∈ c.uplinkTable.keys, ∃ item, uplinkStatus c states facts key = .ok item := by
    intro key hkey
    obtain ⟨enabled, he⟩ := Fields.table_key_enabled hkey
    rw [uplinkStatus, he]
    exact ⟨_, rfl⟩
  obtain ⟨items, hitems⟩ := mapM_total hall
  refine ⟨items, hitems, ?_⟩
  have hname : ∀ key item, uplinkStatus c states facts key = .ok item → item.name = key := by
    intro key item h
    rw [uplinkStatus] at h
    split at h
    · cases h
    · cases h
      rfl
  exact (mapM_map hname hitems).trans (List.map_id _)

theorem status_answers_iff {routing : RoutingConfig} (hr : c.routing = some routing) :
    (∃ view, status c states facts = .ok view) ↔
      routing.defaultUpstream.val ∈ c.uplinkTable.keys := by
  obtain ⟨items, hitems, hnames⟩ := uplinkStatuses_names c states facts
  have hs : status c states facts =
      match items.find? (fun item => item.name = routing.defaultUpstream.val) with
      | none => .error .stopIteration
      | some modeUplink => .ok ⟨routing.mode.value, routing.defaultUpstream.val,
          routing.failopen, facts.rulesCurrent, routing.mode = .full &&
            modeUplink.gatewayAlive = some false && !routing.failopen, items⟩ := by
    rw [status, hr, hitems]
    rfl
  rw [hs, ← hnames]
  cases hf : items.find? (fun item => item.name = routing.defaultUpstream.val) with
  | none =>
    have hnone := List.find?_eq_none.mp hf
    simp only [List.mem_map, not_exists, false_iff, reduceCtorEq, exists_false, not_and]
    exact fun item hi he => hnone item hi (decide_eq_true he)
  | some item =>
    have hi := List.mem_of_find?_eq_some hf
    have he : item.name = routing.defaultUpstream.val := by simpa using List.find?_some hf
    exact ⟨fun _ => List.mem_map.mpr ⟨item, hi, he⟩, fun _ => ⟨_, rfl⟩⟩

end

theorem known_default_iff (c : Config) : c.KnownDefault ↔ c.ExitListed := by
  constructor
  · intro h routing hr _ name hn
    have hk := h routing hr
    rwa [hn, Fields.wgKey_mem_table] at hk
  · intro h routing hr
    rcases uplinkKey_cases routing.defaultUpstream with ⟨up, hup⟩ | ⟨name, hname⟩
    · rw [hup]
      exact c.value_mem_table up
    · rw [hname, Fields.wgKey_mem_table]
      cases hm : routing.mode with
      | off => exact h routing hr hm name hname
      | full =>
        have he := Config.default_enabled hr (by simp [hm])
        rw [hname] at he
        exact Fields.mem_exitNames.mp (Config.wg_key_enabled he)
      | smart =>
        have he := Config.default_enabled hr (by simp [hm])
        rw [hname] at he
        exact Fields.mem_exitNames.mp (Config.wg_key_enabled he)

inductive BoxEdit where
  | routing (mode : Option RoutingMode) (upstream : Option String)
  | tor (enabled : Bool)
  | entry (op : Edit)

def BoxEdit.change (path : String) : BoxEdit → Change Document
  | .routing mode upstream => setRouting path mode upstream
  | .tor enabled => setTorUplink path enabled
  | .entry op => op.change path

-- an edit that is refused leaves the file as it was
def editStep (path : String) (d : Document) (e : BoxEdit) : Document :=
  (editFile path Document.validate (e.change path) .replaced d).1

namespace Document

def listsExit (d : Document) (name : WgName) : Prop :=
  ∃ key ∈ d.wgKeys.keys, validateWgName key = some name

def DefaultListed (d : Document) : Prop :=
  ∀ r, d.routing = some r → r.mode = .off →
    ∀ name, trim r.defaultUpstream = wgKey name → d.listsExit name

-- with the mode off, the edit leaves the exit of the default in upstreams.wg
def KeepsExit (d : Document) : BoxEdit → Prop
  | .routing mode upstream => ∀ r, d.routing = some r → mode.getD r.mode = .off →
      ∀ name, trim (upstream.getD r.defaultUpstream) = wgKey name → d.listsExit name
  | .entry (.removeWgUplink key) => ∀ r, d.routing = some r → r.mode = .off →
      ∀ name, trim r.defaultUpstream = wgKey name →
        ∃ other ∈ d.wgKeys.keys, other ≠ key ∧ validateWgName other = some name
  | _ => True

structure Steady (d d' : Document) : Prop where
  routing : ∀ r', d'.routing = some r' → ∃ r, d.routing = some r ∧ r'.mode = r.mode ∧
    r'.defaultUpstream = r.defaultUpstream
  keys : ∀ key ∈ d.wgKeys.keys, key ∈ d'.wgKeys.keys

variable {d d' : Document} {path : String}

theorem Steady.listed (hs : Steady d d') (h : d.DefaultListed) : d'.DefaultListed := by
  intro r' hr' hm name hn
  obtain ⟨r, hr, hmode, hdefault⟩ := hs.routing r' hr'
  obtain ⟨key, hkey, hv⟩ := h r hr (hmode ▸ hm) name (hdefault ▸ hn)
  exact ⟨key, hs.keys key hkey, hv⟩

theorem routingSection_ok {r : RoutingNode} (h : d.routingSection path = .ok r) :
    d.routing = some r := by
  rw [routingSection] at h
  split at h
  · cases h
  · cases h
    assumption

theorem upstreamsSection_ok {u : UpstreamsNode} (h : d.upstreamsSection path = .ok u) :
    d.upstreams = some u := by
  rw [upstreamsSection] at h
  split at h
  · cases h
  · cases h
    assumption

theorem steady_routing {r r' : RoutingNode} (hr : d.routing = some r) (hm : r'.mode = r.mode)
    (hd : r'.defaultUpstream = r.defaultUpstream) :
    Steady d { d with routing := some r' } :=
  ⟨fun _ h => by cases h; exact ⟨r, hr, hm, hd⟩, fun _ h => h⟩

theorem steady_devices (items : List DeviceNode) :
    Steady d { d with devices := some items } :=
  ⟨fun r h => ⟨r, h, rfl, rfl⟩, fun _ h => h⟩

theorem steady_upstreams {u u' : UpstreamsNode} (hu : d.upstreams = some u)
    (hk : ∀ key ∈ (u.wg.getD Dict.empty).keys, key ∈ (u'.wg.getD Dict.empty).keys) :
    Steady d { d with upstreams := some u' } := by
  refine ⟨fun r h => ⟨r, h, rfl, rfl⟩, fun key h => ?_⟩
  simp only [wgKeys, hu, Option.bind_some] at h
  exact hk key h

theorem edit_steady {op : Edit} (hop : ∀ key, op ≠ .removeWgUplink key)
    (h : op.change path d = .ok d') : Steady d d' := by
  cases op with
  | setDomainRule rule =>
    obtain ⟨r, hr, h⟩ := bind_ok h
    obtain rfl := Except.ok.inj h
    exact steady_routing (routingSection_ok hr) rfl rfl
  | removeDomainRule domain =>
    obtain ⟨_, -, h⟩ := bind_ok h
    obtain ⟨r, hr, h⟩ := bind_ok h
    obtain ⟨_, -, h⟩ := bind_ok h
    obtain rfl := Except.ok.inj h
    exact steady_routing (routingSection_ok hr) rfl rfl
  | setNetworkRule rule =>
    obtain ⟨r, hr, h⟩ := bind_ok h
    obtain rfl := Except.ok.inj h
    exact steady_routing (routingSection_ok hr) rfl rfl
  | removeNetworkRule network =>
    obtain ⟨r, hr, h⟩ := bind_ok h
    obtain ⟨_, -, h⟩ := bind_ok h
    obtain rfl := Except.ok.inj h
    exact steady_routing (routingSection_ok hr) rfl rfl
  | setDomainList item =>
    obtain ⟨r, hr, h⟩ := bind_ok h
    obtain rfl := Except.ok.inj h
    exact steady_routing (routingSection_ok hr) rfl rfl
  | removeDomainList url =>
    obtain ⟨r, hr, h⟩ := bind_ok h
    obtain ⟨_, -, h⟩ := bind_ok h
    obtain rfl := Except.ok.inj h
    exact steady_routing (routingSection_ok hr) rfl rfl
  | setDevice ident policy name defaultName =>
    obtain rfl := Except.ok.inj h
    exact steady_devices _
  | unsetDevice ident =>
    obtain ⟨_, -, h⟩ := bind_ok h
    obtain rfl := Except.ok.inj h
    exact steady_devices _
  | setWgUplink name enabled =>
    obtain ⟨u, hu, h⟩ := bind_ok h
    obtain rfl := Except.ok.inj h
    refine steady_upstreams (upstreamsSection_ok hu) (fun key hkey => ?_)
    exact Dict.mem_keys_set.mpr (.inr hkey)
  | removeWgUplink name => exact absurd rfl (hop name)

theorem tor_steady {enabled : Bool} (h : setTorUplink path enabled d = .ok d') :
    Steady d d' := by
  obtain ⟨u, hu, h⟩ := bind_ok h
  obtain rfl := Except.ok.inj h
  exact steady_upstreams (upstreamsSection_ok hu) (fun _ hkey => hkey)

theorem change_listed {e : BoxEdit} (hd : d.DefaultListed) (hk : d.KeepsExit e)
    (h : e.change path d = .ok d') : d'.DefaultListed := by
  cases e with
  | routing mode upstream =>
    obtain ⟨r, hr, h⟩ := bind_ok h
    obtain rfl := Except.ok.inj h
    intro r' hr' hm name hn
    obtain rfl := Option.some.inj hr'
    exact hk r (routingSection_ok hr) hm name hn
  | tor enabled => exact (tor_steady h).listed hd
  | entry op =>
    by_cases hop : ∃ key, op = .removeWgUplink key
    · obtain ⟨key, rfl⟩ := hop
      obtain ⟨u, hu, h⟩ := bind_ok h
      have hu' := upstreamsSection_ok hu
      simp only at h
      split at h
      · obtain rfl := Except.ok.inj h
        intro r hr hm name hn
        obtain ⟨other, hmem, hne, hv⟩ := hk r hr hm name hn
        refine ⟨other, ?_, hv⟩
        simp only [wgKeys, hu', Option.bind_some] at hmem
        obtain ⟨x, hx, rfl⟩ := List.mem_map.mp hmem
        exact List.mem_map.mpr ⟨x, Dict.mem_erase_entries.mpr ⟨hx, hne⟩, rfl⟩
      · cases h
    · exact (edit_steady (fun key he => hop ⟨key, he⟩) h).listed hd

theorem editStep_listed {e : BoxEdit} (hd : d.DefaultListed) (hk : d.KeepsExit e) :
    (editStep path d e).DefaultListed := by
  rw [editStep, editFile]
  split
  · exact hd
  · rename_i text hc
    split
    · exact hd
    · rw [writeLike]
      split
      · rename_i heq
        split at heq
        · cases heq
          exact hd
        · cases heq
          exact change_listed hd hk hc
      · rename_i heq
        split at heq
        · cases heq
        · cases heq

theorem listed_iff {c : Config} (h : d.validate = some c) : d.DefaultListed ↔ c.ExitListed := by
  have hp := parts h
  have hkeys (name : WgName) : d.listsExit name ↔ name ∈ c.upstreams.wg.keys :=
    (Edit.mem_wg_keys hp.validate_wgKeys name).symm
  constructor
  · intro hd R hR hm name hn
    cases hr : d.routing with
    | none => simp [hp.routing_none hr] at hR
    | some r =>
      obtain ⟨R', hR', hv⟩ := hp.routing_some hr
      obtain rfl : R' = R := Option.some.inj (hR'.symm.trans hR)
      obtain ⟨-, -, -, hkey, hmode, -⟩ := RoutingNode.validate_eq_some hv
      have htext := check_eq_some.mp hkey
      exact (hkeys name).mp (hd r hr (hmode.trans hm) name (htext.trans hn))
  · intro hc r hr hm name hn
    obtain ⟨R, hR, hv⟩ := hp.routing_some hr
    obtain ⟨-, -, -, hkey, hmode, -⟩ := RoutingNode.validate_eq_some hv
    have htext := check_eq_some.mp hkey
    exact (hkeys name).mpr (hc R hR (hmode.symm.trans hm) name (htext.symm.trans hn))

end Document

theorem default_stays_known (path : String) {d : Document} {c : Config}
    (hd : d.validate = some c) :
    (c.KnownDefault ↔ c.ExitListed) ∧
      (c.ExitListed → ∀ edits, EachStep (editStep path) Document.KeepsExit d edits →
        ∀ c', (edits.foldl (editStep path) d).validate = some c' → c'.KnownDefault ∧
          ∀ routing, c'.routing = some routing → ∀ states facts,
            ∃ view, status c'.toFields states facts = .ok view) := by
  refine ⟨known_default_iff c, fun hc edits hs c' hc' => ?_⟩
  have hstep : ∀ d : Document, ∀ e ∈ edits, d.DefaultListed → d.KeepsExit e →
      (editStep path d e).DefaultListed := fun _ _ _ hd hk => Document.editStep_listed hd hk
  have hlisted := hs.invariant hstep ((Document.listed_iff hd).mpr hc)
  have hknown := (known_default_iff c').mpr ((Document.listed_iff hc').mp hlisted)
  exact ⟨hknown, fun routing hr _ _ => (status_answers_iff hr).mpr (hknown routing hr)⟩

def oneExit : Dict WgName WgUplink := Dict.empty.set exitNl {}

-- the mode is off and its default is the one exit there is
def exitDocument : Document where
  role := .home
  network := some sampleNetwork
  routing := some { defaultUpstream := "wg-nl" }
  upstreams := some { tor := { enabled := true }, wg := some (Dict.empty.set "nl" {}) }

def exitKey : UplinkKey := ⟨"wg-nl", by decide⟩

def exitBox : Config where
  role := .home
  network := some sampleNetwork
  routing := some { defaultUpstream := exitKey }
  upstreams := { tor := { enabled := true }, wg := oneExit }
  valid := by decide

def exitGone : Config where
  role := .home
  network := some sampleNetwork
  routing := some { defaultUpstream := exitKey }
  upstreams := { tor := { enabled := true } }
  valid := by decide

def exitEdits : List BoxEdit :=
  [.entry (.setWgUplink "de" true), .routing (some .full) (some "wg-de"), .tor false]

theorem exit_default_stays :
    (exitEdits.foldl (editStep "config.yaml") exitDocument).validate.isSome = true ∧
      ∀ c', (exitEdits.foldl (editStep "config.yaml") exitDocument).validate = some c' →
        c'.KnownDefault := by
  have hd : exitDocument.validate = some exitBox := by decide +kernel
  have hl : exitBox.ExitListed := by
    intro routing hr _ name hn
    obtain rfl := Option.some.inj hr
    have he : exitNl = name := wgKey_injective hn
    rw [← he]
    decide
  have hfull : ∀ d : Document, d.KeepsExit (.routing (some .full) (some "wg-de")) :=
    fun _ _ _ hm => RoutingMode.noConfusion hm
  have hs : EachStep (editStep "config.yaml") Document.KeepsExit exitDocument exitEdits :=
    ⟨trivial, hfull _, trivial, trivial⟩
  refine ⟨by decide +kernel, fun c' hc' => ?_⟩
  exact ((default_stays_known "config.yaml" hd).2 hl _ hs c' hc').1

theorem removed_default_unknown :
    exitDocument.validate = some exitBox ∧
      (editStep "config.yaml" exitDocument (.entry (.removeWgUplink "nl"))).validate =
        some exitGone ∧
      ¬ exitGone.KnownDefault ∧
      (status exitGone.toFields Dict.empty ⟨none, Dict.empty, Dict.empty⟩).isOk = false := by
  refine ⟨by decide +kernel, by decide +kernel, ?_, by decide +kernel⟩
  intro h
  exact absurd (h _ rfl) (by decide +kernel)

end VibeDPN
