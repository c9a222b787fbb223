import VibeDPN.Engine.Adguard
import VibeDPN.Api.State

namespace VibeDPN

open Text

def dnsConfigPath : String := "/control/dns_config"

-- upstreams: upstream_dns and fallback_dns, left out unless smart came or went
structure DnsBody where
  disableIpv6 : Bool
  upstreams : Option (List String × List String)

def AdguardDns.take (a : AdguardDns) (body : DnsBody) : AdguardDns :=
  match body.upstreams with
  | none => { a with aaaaDisabled := body.disableIpv6 }
  | some (upstreams, fallbacks) =>
    { upstreamDns := upstreams, fallbackDns := fallbacks, aaaaDisabled := body.disableIpv6 }

-- AdGuard that says 200 took the settings; one that refuses or falls silent took them or did not
structure AdguardReply where
  response : Except String Nat
  taken : Bool
  taken_ok : response = .ok 200 → taken = true

def readCorePassword (secret : Except String String) : Except String String :=
  match secret with
  | .error reason =>
    .error ("cannot read " ++ adguardCorePasswordFile ++ ": " ++ reason ++
      "; run `vibedpn init --force`")
  | .ok text =>
    if strip text = "" then
      .error (adguardCorePasswordFile ++ " is empty; run `vibedpn init --force`")
    else .ok (strip text)

def setDnsMode (c : Fields) (secret : Except String String) (upstreamsChanged : Bool)
    (reply : AdguardReply) (a : AdguardDns) : AdguardDns × Except String (Option Bool) :=
  match c.network with
  | none => (a, .ok none)
  | some network =>
    if c.dns.enabled = false then (a, .ok none)
    else
      match readCorePassword secret with
      | .error e => (a, .error e)
      | .ok _ =>
        let body : DnsBody :=
          { disableIpv6 := c.hasMode .full
            upstreams := if upstreamsChanged then some (dnsUpstreams c) else none }
        let a := if reply.taken then a.take body else a
        match reply.response with
        | .error e =>
          (a, .error ("AdGuard does not answer at http://" ++ network.lanAddress.str ++ ":" ++
            toString c.dns.webPort.val ++ dnsConfigPath ++ ": " ++ e))
        | .ok status =>
          if status ≠ 200 then
            (a, .error ("AdGuard refused the DNS mode: HTTP " ++ toString status))
          else (a, .ok (some true))

inductive AdguardAnswer where
  | applied | pending | none
deriving DecidableEq

def adguardAnswer : Except String (Option Bool) → AdguardAnswer
  | .ok none => .none
  | .ok (some _) => .applied
  | .error _ => .pending

structure RoutingView where
  mode : String
  defaultUpstream : String
  adguard : AdguardAnswer
deriving DecidableEq

-- refused: 422 with the text of the ConfigEditError; raised: what the handler does not catch
inductive RequestError where
  | http (status : Nat) (detail : String)
  | refused (e : ChangeError)
  | raised (e : EditError)
deriving DecidableEq

def EditError.request : EditError → RequestError
  | .change e => if e.isConfigEdit then .refused e else .raised (.change e)
  | .router message =>
    .http 503 ("router refused the change, config.yaml restored: " ++ message)
  | e => .raised e

structure RoutingUpdate where
  mode : Option RoutingMode
  defaultUpstream : Option String
  write : WriteOutcome
  attempt : Attempt
  restore : WriteOutcome
  again : Attempt
  secret : Except String String
  reply : AdguardReply

structure LanBox where
  box : Box Document
  adguard : AdguardDns

def noLan : String := "this box routes no LAN"

namespace LanBox

def edit (b : LanBox) (r : RoutingUpdate) : Box Document × Except EditError Fields :=
  b.box.edit Document.validate (setRouting b.box.path r.mode r.defaultUpstream) r.write r.attempt
    r.restore r.again

def putRouting (b : LanBox) (r : RoutingUpdate) : LanBox × Except RequestError RoutingView :=
  match b.box.config.routing with
  | none => (b, .error (.http 404 noLan))
  | some routing =>
    if r.mode = none ∧ r.defaultUpstream = none then
      (b, .error (.http 422 "nothing to change: give mode or default_upstream"))
    else
      match b.edit r with
      | (box, .error e) => ({ b with box := box }, .error e.request)
      | (box, .ok updated) =>
        let enteredOrLeftSmart := (routing.mode = .smart) != updated.hasMode .smart
        let result := setDnsMode updated r.secret enteredOrLeftSmart r.reply b.adguard
        match updated.routing with
        | none => (⟨box, result.1⟩, .error (.http 404 noLan))
        | some routing =>
          (⟨box, result.1⟩,
            .ok ⟨routing.mode.value, routing.defaultUpstream.val, adguardAnswer result.2⟩)

def step (b : LanBox) (r : RoutingUpdate) : LanBox := (b.putRouting r).1

def Follows (b : LanBox) : Prop :=
  b.adguard.upstreams = dnsUpstreams b.box.config ∧
    b.adguard.aaaaDisabled = b.box.config.hasMode .full

structure InLine (b : LanBox) : Prop where
  file : ∃ c, b.box.file.validate = some c ∧ c.onNetwork b.box.config.network = b.box.config
  adguard : b.Follows

def switches (b : LanBox) (r : RoutingUpdate) : Bool :=
  match b.box.file.routing with
  | none => false
  | some routing =>
    (r.mode.getD routing.mode = .smart) != b.box.config.hasMode .smart

def takes (b : LanBox) (r : RoutingUpdate) : Bool :=
  b.box.config.network.isSome && b.box.config.dns.enabled &&
    (readCorePassword r.secret).isOk && r.reply.taken

def owedAfter (b : LanBox) (owed : Bool) (r : RoutingUpdate) : Bool :=
  if (b.putRouting r).2.isOk && b.switches r then
    if b.takes r then false else !owed
  else owed

def owed (b : LanBox) (due : Bool) : List RoutingUpdate → Bool
  | [] => due
  | r :: rest => (b.step r).owed (b.owedAfter due r) rest

end LanBox

def upstreamsFor (smart : Bool) (dns : DnsConfig) : List String × List String :=
  if smart then ([resolverHost ++ ":" ++ toString resolverPort], dns.upstreams.map Subtype.val)
  else (dns.upstreams.map Subtype.val, [])

theorem dnsUpstreams_eq (c : Fields) : dnsUpstreams c = upstreamsFor (c.hasMode .smart) c.dns := rfl

theorem upstreamsFor_inj {dns : DnsConfig} {s t : Bool} :
    upstreamsFor s dns = upstreamsFor t dns ↔ s = t := by
  have hfallback (u : Bool) : (upstreamsFor u dns).2 = [] ↔ u = false := by
    cases u with
    | false => simp [upstreamsFor]
    | true =>
      rw [upstreamsFor, if_pos rfl, List.map_eq_nil_iff]
      simpa using dns.upstreams_ne
  constructor
  · intro h
    have hiff := (hfallback s).symm.trans (h ▸ hfallback t)
    cases s <;> cases t <;> simp_all
  · rintro rfl
    rfl

theorem AdguardDns.take_upstreams (a : AdguardDns) (body : DnsBody) :
    (a.take body).upstreams = body.upstreams.getD a.upstreams := by
  rw [take]
  cases body.upstreams <;> rfl

theorem AdguardDns.take_aaaaDisabled (a : AdguardDns) (body : DnsBody) :
    (a.take body).aaaaDisabled = body.disableIpv6 := by
  rw [take]
  cases body.upstreams <;> rfl

def dnsBody (c : Fields) (upstreamsChanged : Bool) : DnsBody where
  disableIpv6 := c.hasMode .full
  upstreams := if upstreamsChanged then some (dnsUpstreams c) else none

def Fields.reachesAdguard (c : Fields) (secret : Except String String) : Bool :=
  c.network.isSome && c.dns.enabled && (readCorePassword secret).isOk

theorem setDnsMode_adguard (c : Fields) (secret : Except String String) (changed : Bool)
    (reply : AdguardReply) (a : AdguardDns) :
    (setDnsMode c secret changed reply a).1 =
      if c.reachesAdguard secret && reply.taken then a.take (dnsBody c changed) else a := by
  rw [setDnsMode, Fields.reachesAdguard]
  cases c.network with
  | none => rfl
  | some network =>
    cases c.dns.enabled with
    | false => rfl
    | true =>
      cases readCorePassword secret with
      | error e => rfl
      | ok password =>
        simp only [Bool.true_eq_false, if_false]
        cases reply.response with
        | error e => rfl
        | ok status =>
          dsimp only
          split <;> rfl

theorem setDnsMode_applied {c : Fields} {secret : Except String String} {changed : Bool}
    {reply : AdguardReply} {a : AdguardDns} {x : Bool}
    (h : (setDnsMode c secret changed reply a).2 = .ok (some x)) :
    c.reachesAdguard secret = true ∧ reply.taken = true := by
  rw [setDnsMode] at h
  rw [Fields.reachesAdguard]
  cases hn : c.network with
  | none => simp [hn] at h
  | some network =>
    cases he : c.dns.enabled with
    | false => simp [hn, he] at h
    | true =>
      cases hs : readCorePassword secret with
      | error e => simp [hn, he, hs] at h
      | ok password =>
        simp only [hn, he, hs, Bool.true_eq_false, if_false] at h
        cases hr : reply.response with
        | error e => simp [hr] at h
        | ok status =>
          by_cases h200 : status = 200
          · exact ⟨rfl, reply.taken_ok (h200 ▸ hr)⟩
          · simp [hr, h200] at h

theorem setRouting_ok {path : String} {mode : Option RoutingMode} {upstream : Option String}
    {d d' : Document} (h : setRouting path mode upstream d = .ok d') :
    d'.dns = d.dns ∧ ∃ r r', d.routing = some r ∧ d'.routing = some r' ∧
      r'.mode = mode.getD r.mode := by
  cases hr : d.routing with
  | none => simp [setRouting, Document.routingSection, hr, bind, Except.bind] at h
  | some r =>
    simp only [setRouting, Document.routingSection, hr, bind, Except.bind, pure, Except.pure,
      Except.ok.injEq] at h
    subst h
    exact ⟨rfl, r, _, rfl, rfl, rfl⟩

theorem Document.Parts.hasMode {d : Document} {c : Fields} (h : d.Parts c) {r : RoutingNode}
    (hr : d.routing = some r) (mode : RoutingMode) : c.hasMode mode = decide (r.mode = mode) := by
  obtain ⟨R, hR, hv⟩ := h.routing_some hr
  obtain ⟨_, _, _, _, hm, _⟩ := RoutingNode.validate_eq_some hv
  simp only [Fields.hasMode, hR, hm]

namespace LanBox

structure Updates (b : LanBox) (r : RoutingUpdate) (updated : Fields) : Prop where
  config : (b.step r).box.config = updated
  network : updated.network = b.box.config.network
  dns : updated.dns = b.box.file.dns.getD {}
  smart : updated.hasMode .smart = (b.box.config.hasMode .smart != b.switches r)
  adguard : (b.step r).adguard = (setDnsMode updated r.secret (b.switches r) r.reply b.adguard).1

theorem edit_dns (b : LanBox) (r : RoutingUpdate) : (b.edit r).1.file.dns = b.box.file.dns := by
  rcases Box.edit_file Document.validate b.box
      (setRouting b.box.path r.mode r.defaultUpstream) r.write r.attempt r.restore r.again with h | h
  · rw [edit, h]
  · exact (setRouting_ok h).1

theorem putRouting_box (b : LanBox) (r : RoutingUpdate) :
    (b.step r).box = b.box ∨ (b.step r).box = (b.edit r).1 := by
  rw [step, putRouting]
  split
  · exact .inl rfl
  · split
    · exact .inl rfl
    · split
      · rename_i h
        exact .inr (by rw [h])
      · rename_i h
        dsimp only
        split
        · exact .inr (by rw [h])
        · exact .inr (by rw [h])

theorem step_dns (b : LanBox) (r : RoutingUpdate) : (b.step r).box.file.dns = b.box.file.dns := by
  rcases putRouting_box b r with h | h
  · rw [h]
  · rw [h, edit_dns]

theorem switches_eq {b : LanBox} {r : RoutingUpdate} {text : Document} {c : Config}
    (hs : setRouting b.box.path r.mode r.defaultUpstream b.box.file = .ok text)
    (hv : text.validate = some c) :
    b.switches r = (b.box.config.hasMode .smart != c.hasMode .smart) := by
  obtain ⟨_, node, node', hn, hn', hm⟩ := setRouting_ok hs
  rw [switches, hn, (Document.parts hv).hasMode hn', hm, bne_comm]

theorem putRouting_edited {b : LanBox} {r : RoutingUpdate} {box : Box Document}
    {updated : Fields} {routing routing' : RoutingConfig} (hc : b.box.config.routing = some routing)
    (hr : ¬ (r.mode = none ∧ r.defaultUpstream = none)) (he : b.edit r = (box, .ok updated))
    (hu : updated.routing = some routing') :
    b.putRouting r =
      let result := setDnsMode updated r.secret
        (b.box.config.hasMode .smart != updated.hasMode .smart) r.reply b.adguard
      (⟨box, result.1⟩,
        .ok ⟨routing'.mode.value, routing'.defaultUpstream.val, adguardAnswer result.2⟩) := by
  have hmode : b.box.config.hasMode .smart = decide (routing.mode = .smart) := by
    rw [Fields.hasMode, hc]
  rw [hmode]
  simp only [putRouting, hc, hr, he, if_false]
  rw [hu]

theorem putRouting_ok {b : LanBox} {r : RoutingUpdate} {view : RoutingView}
    (h : (b.putRouting r).2 = .ok view) :
    ∃ updated, b.Updates r updated ∧ (view.adguard = .applied →
      updated.reachesAdguard r.secret = true ∧ r.reply.taken = true) := by
  cases hc : b.box.config.routing with
  | none => simp [putRouting, hc] at h
  | some routing =>
    by_cases hr : r.mode = none ∧ r.defaultUpstream = none
    · simp [putRouting, hc, hr] at h
    · cases he : b.edit r with
      | mk box result =>
        have hbox := Box.edit_config Document.validate b.box
          (setRouting b.box.path r.mode r.defaultUpstream) r.write r.attempt r.restore r.again
        rw [← edit, he] at hbox
        cases result with
        | error e => simp [putRouting, hc, hr, he] at h
        | ok updated =>
          obtain ⟨text, c, hs, hv, hu, hconf⟩ := hbox.resolve_right (by simp)
          rw [Except.ok.injEq] at hu
          subst hu
          have hsw := switches_eq hs hv
          obtain ⟨hdns, _, node, _, hn, _⟩ := setRouting_ok hs
          have hp := Document.parts hv
          obtain ⟨R, hR, _⟩ := hp.routing_some hn
          have hput := putRouting_edited hc hr he (show _ = some R from hR)
          have hmode : (c.onNetwork b.box.config.network).hasMode .smart = c.hasMode .smart := rfl
          rw [hmode, ← hsw] at hput
          rw [hput, Except.ok.injEq] at h
          refine ⟨c.onNetwork b.box.config.network, ⟨?_, rfl, ?_, ?_, ?_⟩, ?_⟩
          · rw [step, hput]
            exact hconf
          · rw [← hdns]
            exact hp.rest.2.2.2.2.1
          · rw [hmode, hsw]
            cases b.box.config.hasMode .smart <;> cases c.hasMode .smart <;> rfl
          · rw [step, hput]
          · intro ha
            rw [← h] at ha
            cases hres : (setDnsMode (c.onNetwork b.box.config.network) r.secret (b.switches r)
                r.reply b.adguard).2 with
            | error e => simp [hres, adguardAnswer] at ha
            | ok x =>
              cases x with
              | none => simp [hres, adguardAnswer] at ha
              | some x => exact setDnsMode_applied hres

theorem putRouting_error {b : LanBox} {r : RoutingUpdate} {e : RequestError}
    (h : (b.putRouting r).2 = .error e) :
    (b.step r).box.config = b.box.config ∧ (b.step r).adguard = b.adguard := by
  rw [step]
  cases hc : b.box.config.routing with
  | none => simp [putRouting, hc]
  | some routing =>
    by_cases hr : r.mode = none ∧ r.defaultUpstream = none
    · simp [putRouting, hc, hr]
    · cases he : b.edit r with
      | mk box result =>
        have hbox := Box.edit_config Document.validate b.box
          (setRouting b.box.path r.mode r.defaultUpstream) r.write r.attempt r.restore r.again
        rw [← edit, he] at hbox
        cases result with
        | error e =>
          simp only [putRouting, hc, hr, he, if_false, and_true]
          exact (hbox.resolve_left (by simp)).2
        | ok updated =>
          obtain ⟨text, c, hs, hv, hu, hconf⟩ := hbox.resolve_right (by simp)
          rw [Except.ok.injEq] at hu
          subst hu
          obtain ⟨_, _, node, _, hn, _⟩ := setRouting_ok hs
          obtain ⟨R, hR, _⟩ := (Document.parts hv).routing_some hn
          have hput := putRouting_edited hc hr he (show _ = some R from hR)
          simp [hput] at h

-- AdGuard runs the upstreams of the mode, or of the other one while a switch is owed
structure Tracks (b : LanBox) (due : Bool) : Prop where
  dns : b.box.file.dns.getD {} = b.box.config.dns
  upstreams : b.adguard.upstreams =
    upstreamsFor (b.box.config.hasMode .smart != due) b.box.config.dns

theorem InLine.tracks {b : LanBox} (h : b.InLine) : b.Tracks false := by
  obtain ⟨⟨c, hv, hc⟩, hf, _⟩ := h
  constructor
  · rw [← hc]
    exact (Document.parts hv).rest.2.2.2.2.1.symm
  · rw [hf, dnsUpstreams_eq, Bool.bne_false]

theorem Updates.upstreams {b : LanBox} {r : RoutingUpdate} {updated : Fields}
    (h : b.Updates r updated) : (b.step r).adguard.upstreams =
      if (updated.reachesAdguard r.secret && r.reply.taken) && b.switches r then
        dnsUpstreams updated
      else b.adguard.upstreams := by
  rw [h.adguard, setDnsMode_adguard]
  cases updated.reachesAdguard r.secret && r.reply.taken with
  | false => rfl
  | true =>
    rw [if_pos rfl, AdguardDns.take_upstreams, dnsBody]
    cases b.switches r <;> rfl

theorem Updates.takes {b : LanBox} {r : RoutingUpdate} {updated : Fields}
    (h : b.Updates r updated) (hd : b.box.file.dns.getD {} = b.box.config.dns) :
    b.takes r = (updated.reachesAdguard r.secret && r.reply.taken) := by
  rw [LanBox.takes, Fields.reachesAdguard, h.network, h.dns, hd]

theorem step_tracks {b : LanBox} {due : Bool} (h : b.Tracks due) (r : RoutingUpdate) :
    (b.step r).Tracks (b.owedAfter due r) := by
  rw [owedAfter]
  cases hp : (b.putRouting r).2 with
  | error e =>
    obtain ⟨hc, ha⟩ := putRouting_error hp
    constructor
    · rw [step_dns, hc, h.dns]
    · rw [hc, ha]
      exact h.upstreams
  | ok view =>
    obtain ⟨updated, hu, _⟩ := putRouting_ok hp
    have hdns : updated.dns = b.box.config.dns := hu.dns.trans h.dns
    constructor
    · rw [step_dns, hu.config, hu.dns]
    · rw [hu.config, hu.upstreams, ← hu.takes h.dns, hu.smart, hdns]
      cases hs : b.switches r with
      | false =>
        simp only [Bool.and_false, Bool.false_eq_true, if_false, Bool.bne_false]
        exact h.upstreams
      | true =>
        cases ht : b.takes r with
        | true => simp [dnsUpstreams_eq, hu.smart, hs, hdns, Except.isOk, Except.toBool]
        | false =>
          rw [h.upstreams]
          simp [Except.isOk, Except.toBool]

theorem run_tracks {b : LanBox} {due : Bool} (h : b.Tracks due) (history : List RoutingUpdate) :
    (history.foldl step b).Tracks (b.owed due history) := by
  induction history generalizing b due with
  | nil => exact h
  | cons r rest ih => exact ih (step_tracks h r)

end LanBox

theorem adguard_follows_iff {init : LanBox} (hi : init.InLine) (history : List RoutingUpdate)
    (r : RoutingUpdate) {view : RoutingView}
    (h : ((history.foldl LanBox.step init).putRouting r).2 = .ok view)
    (ha : view.adguard = .applied) :
    ((history.foldl LanBox.step init).step r).Follows ↔
      (history.foldl LanBox.step init).switches r = true ∨ init.owed false history = false := by
  have ht := LanBox.run_tracks hi.tracks history
  obtain ⟨updated, hu, hap⟩ := LanBox.putRouting_ok h
  obtain ⟨hr, htaken⟩ := hap ha
  have haaaa : ((history.foldl LanBox.step init).step r).adguard.aaaaDisabled =
      updated.hasMode .full := by
    rw [hu.adguard, setDnsMode_adguard, hr, htaken, Bool.and_self, if_pos rfl,
      AdguardDns.take_aaaaDisabled, dnsBody]
  rw [LanBox.Follows, hu.config, hu.upstreams, hr, htaken, haaaa]
  simp only [Bool.and_self, Bool.true_and, and_true]
  cases hs : (history.foldl LanBox.step init).switches r with
  | true => simp
  | false =>
    have hdns := hu.dns.trans ht.dns
    have hsmart := hu.smart
    rw [hs, Bool.bne_false] at hsmart
    simp only [Bool.false_eq_true, if_false, false_or]
    rw [ht.upstreams, dnsUpstreams_eq, hdns, upstreamsFor_inj, hsmart]
    cases (history.foldl LanBox.step init).box.config.hasMode .smart <;> simp

def plainBox : LanBox where
  box := siteBox
  adguard := ⟨["https://dns.cloudflare.com/dns-query"], [], false⟩

def modeRequest (mode : RoutingMode) (reply : AdguardReply) : RoutingUpdate where
  mode := some mode
  defaultUpstream := none
  write := .replaced
  attempt := nftCalls .loaded
  restore := .replaced
  again := nftCalls .loaded
  secret := .ok "secret"
  reply := reply

def silence : AdguardReply := ⟨.error "ConnectError", false, by simp⟩

def acceptance : AdguardReply := ⟨.ok 200, true, fun _ => rfl⟩

theorem plainBox_inLine : plainBox.InLine :=
  ⟨⟨siteConfig, by decide +kernel, rfl⟩, by decide +kernel, by decide +kernel⟩

theorem smart_left_follows :
    (([modeRequest .smart silence].foldl LanBox.step plainBox).step
      (modeRequest .off acceptance)).Follows :=
  (@adguard_follows_iff plainBox plainBox_inLine [modeRequest .smart silence]
    (modeRequest .off acceptance) ⟨"off", "tor", .applied⟩ (by decide +kernel) rfl).mpr
    (.inl (by decide +kernel))

theorem repeated_smart_unserved : plainBox.InLine ∧
    ((plainBox.step (modeRequest .smart silence)).putRouting (modeRequest .smart acceptance)).2 =
      .ok ⟨"smart", "tor", .applied⟩ ∧
    ¬ ((plainBox.step (modeRequest .smart silence)).step
      (modeRequest .smart acceptance)).Follows := by
  refine ⟨plainBox_inLine, by decide +kernel, fun hf => ?_⟩
  have hupstreams := hf.1
  revert hupstreams
  decide +kernel

end VibeDPN
