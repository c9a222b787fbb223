import VibeDPN.Engine.Apply
import VibeDPN.Api.Exits

namespace VibeDPN

inductive PanelCall where
  | idle
  | tor (enabled : Bool)
  | asking (changed : Nat)

-- answered: for each success, the step of the change it reports
structure Panel where
  exits : ExitBox
  host : ApplyHost
  calls : Nat → PanelCall := fun _ => .idle
  changed : Option Nat := none
  torChanged : Option Nat := none
  answered : List Nat := []

inductive PanelEvent where
  | putTor (id : Nat) (enabled : Bool)
  | editTor (id : Nat) (edit : EditRun)
  | addWgUplink (id : Nat) (name config : String) (write : WriteOutcome) (edit : EditRun)
      (unlink : Except OsError Unit)
  | removeWg (id : Nat) (name : String) (edit : EditRun) (unlink : Except OsError Unit)
  | askHost (id : Nat) (now : Rat) (write : RequestWrite)
  | read (pid : Nat)
  | up (pid : Nat)
  | finish (pid exit : Nat) (finishedAt : Rat) (write : WriteOutcome)
  | stop (pid : Nat)
  | view

namespace Panel

def setCall (p : Panel) (id : Nat) (call : PanelCall) : Panel :=
  { p with calls := Function.update p.calls id call }

def differs (a b : ExitBox) : Bool := a.box.file ≠ b.box.file || a.secrets ≠ b.secrets

-- a change that goes on to ask the host, or an error that left one behind
def saved (p : Panel) (id : Nat) (exits : ExitBox) (ok tor : Bool) : Panel :=
  let p' := if ok || differs p.exits exits then
      { p with
        changed := some p.host.clock
        torChanged := if tor then some p.host.clock else p.torChanged }
    else p
  { p'.setCall id (if ok then .asking p.host.clock else .idle) with exits := exits }

def putTor (p : Panel) (id : Nat) (enabled : Bool) : Panel :=
  match p.calls id, p.exits.box.config.network with
  | .idle, some _ =>
    if p.exits.box.config.upstreams.tor.enabled = enabled then
      { p with answered := p.torChanged.toList ++ p.answered }
    else p.setCall id (.tor enabled)
  | _, _ => p

def editTor (p : Panel) (id : Nat) (edit : EditRun) : Panel :=
  match p.calls id with
  | .tor enabled =>
    let result := p.exits.runEdit (setTorUplink p.exits.box.path enabled) edit
    p.saved id result.1 result.2.isOk true
  | _ => p

def addWgUplink (p : Panel) (id : Nat) (name config : String) (write : WriteOutcome)
    (edit : EditRun) (unlink : Except OsError Unit) : Panel :=
  match p.calls id with
  | .idle =>
    let result := p.exits.addWgUplink name config write edit unlink (.ok ())
    p.saved id result.1 result.2.isOk false
  | _ => p

def removeWg (p : Panel) (id : Nat) (name : String) (edit : EditRun)
    (unlink : Except OsError Unit) : Panel :=
  match p.calls id with
  | .idle =>
    let result := p.exits.removeWg name edit unlink (.ok ())
    p.saved id result.1 result.2.isOk false
  | _ => p

def askHost (p : Panel) (id : Nat) (now : Rat) (write : RequestWrite) : Panel :=
  match p.calls id with
  | .asking changed =>
    let (host, asked) := p.host.request now write
    { p.setCall id .idle with
      host := host
      answered := if (VibeDPN.askHost asked).isOk then changed :: p.answered else p.answered }
  | _ => p

def event (p : Panel) : PanelEvent → Panel
  | .putTor id enabled => p.putTor id enabled
  | .editTor id edit => p.editTor id edit
  | .addWgUplink id name config write edit unlink => p.addWgUplink id name config write edit unlink
  | .removeWg id name edit unlink => p.removeWg id name edit unlink
  | .askHost id now write => p.askHost id now write
  | .read pid => { p with host := p.host.read pid }
  | .up pid => { p with host := p.host.up pid }
  | .finish pid exit finishedAt write => { p with host := p.host.finish pid exit finishedAt write }
  | .stop pid => { p with host := p.host.stop pid }
  | .view => p

def step (p : Panel) (e : PanelEvent) : Panel :=
  { p.event e with host := (p.event e).host.tick }

def Stamped (p : Panel) : PanelEvent → Prop
  | .askHost _ now _ => p.host.bound < now
  | _ => True

def WroteAfter (p : Panel) (t : Nat) : Prop := ∃ w ∈ p.host.wrote, t < w.2

def Clear (p : Panel) : PanelEvent → Prop
  | .putTor _ enabled => p.exits.box.config.upstreams.tor.enabled = enabled →
      ∀ t ∈ p.torChanged, p.WroteAfter t
  | .askHost _ now write => p.host.Keeps now write
  | .view => ∀ t ∈ p.changed, ∃ w ∈ p.host.wrote, p.host.files.request = some w.1 ∧ t < w.2
  | _ => True

structure Inv (p : Panel) : Prop where
  sound : p.host.Sound
  wrote : ∀ t ∈ p.answered, p.WroteAfter t
  asking : ∀ id t, p.calls id = .asking t → t < p.host.clock

variable {p : Panel}

theorem calls_setCall {id other : Nat} {call : PanelCall} {t : Nat}
    (h : (p.setCall id call).calls other = .asking t) : call = .asking t ∨ p.calls other = .asking t := by
  have he : (p.setCall id call).calls other = if other = id then call else p.calls other :=
    Function.update_apply _ _ _ _
  rw [he] at h
  split at h
  · exact .inl h
  · exact .inr h

theorem Inv.host (hi : p.Inv) {host : ApplyHost} (hs : host.Sound) (hw : host.wrote = p.host.wrote)
    (hc : host.clock = p.host.clock) : Inv { p with host := host.tick } where
  sound := hs.tick
  wrote t ht := by
    obtain ⟨w, hm, hlt⟩ := hi.wrote t ht
    exact ⟨w, hw ▸ hm, hlt⟩
  asking id t h := Nat.lt_succ_of_lt (hc ▸ hi.asking id t h)

theorem Inv.saved (hi : p.Inv) (id : Nat) (exits : ExitBox) (ok tor : Bool) :
    Inv { p.saved id exits ok tor with host := p.host.tick } where
  sound := hi.sound.tick
  wrote t ht := by
    have ha : (p.saved id exits ok tor).answered = p.answered := by
      rw [Panel.saved]
      dsimp only
      split <;> rfl
    exact hi.wrote t (ha ▸ ht)
  asking other t h := by
    have hc : (p.saved id exits ok tor).calls =
        Function.update p.calls id (if ok then .asking p.host.clock else .idle) := by
      rw [Panel.saved]
      dsimp only
      split <;> rfl
    have h' : (p.setCall id (if ok then .asking p.host.clock else .idle)).calls other =
        .asking t := (congrFun hc other).symm.trans h
    rcases calls_setCall h' with he | he
    · split at he
      · cases he
        exact Nat.lt_succ_self _
      · cases he
    · exact Nat.lt_succ_of_lt (hi.asking other t he)

theorem saved_host (p : Panel) (id : Nat) (exits : ExitBox) (ok tor : Bool) :
    (p.saved id exits ok tor).host = p.host := by
  rw [saved]
  dsimp only
  split <;> rfl

theorem Inv.asked (hi : p.Inv) {id : Nat} {now : Rat} {write : RequestWrite}
    (hnow : p.host.bound < now) (hk : p.host.Keeps now write) {changed : Nat}
    (hc : p.calls id = .asking changed) : (p.step (.askHost id now write)).Inv := by
  have hs := hi.sound.request hnow hk
  have hold : ∀ t ∈ p.answered, ∃ w ∈ (p.host.request now write).1.wrote, t < w.2 := by
    intro t ht
    obtain ⟨w, hw, hlt⟩ := hi.wrote t ht
    cases write with
    | written => exact ⟨_, rfl, hlt.trans (hi.sound.wrote_lt w hw)⟩
    | refused e => exact ⟨w, hw, hlt⟩
    | torn e left => exact ⟨w, hw, hlt⟩
  have hclock : (p.host.request now write).1.clock = p.host.clock := rfl
  simp only [step, event, askHost, hc]
  refine ⟨hs, fun t ht => ?_, fun other t h => ?_⟩
  · dsimp only at ht
    split at ht
    · rename_i hok
      rcases List.mem_cons.mp ht with rfl | ht
      · cases write with
        | written => exact ⟨_, rfl, hi.asking id _ hc⟩
        | refused e => cases hok
        | torn e left => cases hok
      · exact hold t ht
    · exact hold t ht
  · rcases calls_setCall (p := p) h with he | he
    · cases he
    · exact Nat.lt_succ_of_lt (hi.asking other t he)

theorem Inv.step (hi : p.Inv) {e : PanelEvent} (hst : p.Stamped e) (hg : p.Clear e) :
    (p.step e).Inv := by
  have hsame : Inv { p with host := p.host.tick } := hi.host hi.sound rfl rfl
  cases e with
  | putTor id enabled =>
    simp only [Panel.step, event, putTor]
    split
    · split
      · rename_i hfound
        refine ⟨hi.sound.tick, fun t ht => ?_, hsame.asking⟩
        rcases List.mem_append.mp ht with ht | ht
        · exact hg hfound t (Option.mem_toList.mp ht)
        · exact hi.wrote t ht
      · refine ⟨hi.sound.tick, hi.wrote, fun other t h => ?_⟩
        rcases calls_setCall (p := p) h with he | he
        · cases he
        · exact Nat.lt_succ_of_lt (hi.asking other t he)
    · exact hsame
  | editTor id edit =>
    simp only [Panel.step, event, editTor]
    split
    · rw [saved_host]
      exact hi.saved id _ _ true
    · exact hsame
  | addWgUplink id name config write edit unlink =>
    simp only [Panel.step, event, addWgUplink]
    split
    · rw [saved_host]
      exact hi.saved id _ _ false
    · exact hsame
  | removeWg id name edit unlink =>
    simp only [Panel.step, event, removeWg]
    split
    · rw [saved_host]
      exact hi.saved id _ _ false
    · exact hsame
  | askHost id now write =>
    cases hc : p.calls id with
    | asking changed => exact hi.asked hst hg hc
    | idle =>
      simp only [Panel.step, event, askHost, hc]
      exact hsame
    | tor enabled =>
      simp only [Panel.step, event, askHost, hc]
      exact hsame
  | read pid =>
    have h := (p.host.runs_wrote pid 0 0 .replaced).1
    exact hi.host (hi.sound.read pid) h.1 h.2
  | up pid =>
    have h := (p.host.runs_wrote pid 0 0 .replaced).2.1
    exact hi.host (hi.sound.up pid) h.1 h.2
  | finish pid exit finishedAt write =>
    have h := (p.host.runs_wrote pid exit finishedAt write).2.2
    exact hi.host (hi.sound.finish pid exit finishedAt write) h.1 h.2
  | stop pid => exact hi.host (hi.sound.stop pid) rfl rfl
  | view => exact hsame

-- a success of the panel: the host is asked, or has started since; the status shows its result
structure Honest (p : Panel) : Prop where
  asked : ∀ t ∈ p.answered, p.host.Asked t
  shown : ∀ t ∈ p.answered, ∀ w ∈ p.host.wrote, p.host.files.request = some w.1 →
    ∀ r, p.host.files.result = some r → w.1 ≤ r.requestedAt →
      (∀ now, p.host.files.applyState now = ⟨false, some r⟩) ∧
        ∃ u, p.host.origin = some u ∧ u ∈ p.host.started ∧ t < u
  status : p.Clear .view → ∀ now, (p.host.files.applyState now).applied = true →
    ∀ t ∈ p.changed, ∃ u ∈ p.host.succeeded, t < u

theorem Inv.honest (hi : p.Inv) : p.Honest where
  asked t ht := by
    obtain ⟨w, hw, hlt⟩ := hi.wrote t ht
    exact hi.sound.asked hw hlt
  shown t ht w hw hx r hr hc := by
    obtain ⟨w', hw', hlt⟩ := hi.wrote t ht
    obtain rfl : w = w' := Option.some.inj (Eq.symm hw |>.trans hw')
    obtain ⟨u, ho, hu, hwu, -⟩ := hi.sound.covered hw hr hc
    exact ⟨fun now => ApplyHost.applyState_covered hx hr hc now, u, ho, hu, hlt.trans hwu⟩
  status hv now ha t ht := by
    obtain ⟨w, hw, hx, hlt⟩ := hv t ht
    obtain ⟨u, hu, hwu⟩ := hi.sound.applied hw hx ha
    exact ⟨u, hu, hlt.trans hwu⟩

structure Untouched (p : Panel) : Prop where
  calls : ∀ id, p.calls id = .idle
  runs : ∀ pid, p.host.runs pid = .idle
  history : p.answered = [] ∧ p.changed = none ∧ p.torChanged = none ∧ p.host.wrote = none
  request_le : ∀ x ∈ p.host.files.request, x ≤ p.host.bound
  result_le : ∀ r ∈ p.host.files.result, r.requestedAt ≤ p.host.bound

theorem Untouched.inv (hu : p.Untouched) : p.Inv := by
  obtain ⟨ha, -, -, hw⟩ := hu.history
  have htop : p.host.top = p.host.bound := by rw [ApplyHost.top, hw]
  refine ⟨⟨le_of_eq htop, htop ▸ hu.request_le, htop ▸ hu.result_le, ?_, ?_, ?_, ?_, ?_⟩, ?_, ?_⟩
  · intro pid x hx
    simp [hu.runs pid, ApplyRun.requested] at hx
  · intro w h
    simp [hw] at h
  · intro pid x u h
    simp [hu.runs pid] at h
  · intro r _ w h
    simp [hw] at h
  · intro w h
    simp [hw] at h
  · intro t ht
    simp [ha] at ht
  · intro id t h
    simp [hu.calls id] at h

end Panel

theorem panel_success_honest {init p : Panel} (hu : init.Untouched)
    (h : Guarded Panel.step (fun p e => p.Stamped e ∧ p.Clear e) init p) : p.Honest :=
  (h.invariant Panel.Inv hu.inv fun _ _ hi hg => hi.step hg.1 hg.2).honest

def quietDocument : Document where
  role := .home
  network := some sampleNetwork
  routing := some { defaultUpstream := "tor" }
  upstreams := some {}

def quietConfig : Config where
  role := .home
  network := some sampleNetwork
  routing := some { defaultUpstream := torKey }
  valid := by decide

def quietPanel : Panel where
  exits :=
    { box :=
        { path := "config.yaml"
          file := quietDocument
          config := quietConfig.toFields
          host := none
          steering := none }
      secretsDir := "secrets"
      secrets := Dict.empty }
  host := { files := { dir := "/var/lib/vibedpn" }, bound := 0 }

theorem quietPanel_untouched : quietPanel.Untouched where
  calls _ := rfl
  runs _ := rfl
  history := ⟨rfl, rfl, rfl, rfl⟩
  request_le x hx := by simp [quietPanel] at hx
  result_le r hr := by simp [quietPanel] at hr

def cleanEdit : EditRun := ⟨.replaced, nftCalls .loaded, .replaced, nftCalls .loaded⟩

def addNl : PanelEvent := .addWgUplink 0 "nl" peerFile .replaced cleanEdit (.ok ())

theorem added_exit_honest :
    (((quietPanel.step addNl).step (.askHost 0 1 .written)).step (.read 0)).Honest := by
  have h0 : Guarded Panel.step (fun p e => p.Stamped e ∧ p.Clear e) quietPanel quietPanel := .start
  have hb : (quietPanel.step addNl).host.bound = 0 := by decide +kernel
  have hst : (quietPanel.step addNl).Stamped (.askHost 0 1 .written) := by
    show (quietPanel.step addNl).host.bound < 1
    rw [hb]
    decide
  have hread (p : Panel) : p.Stamped (.read 0) ∧ p.Clear (.read 0) := ⟨trivial, trivial⟩
  exact panel_success_honest quietPanel_untouched
    (((h0.next addNl ⟨trivial, trivial⟩).next _ ⟨hst, trivial⟩).next _ (hread _))

def enableTor : List PanelEvent :=
  [.putTor 0 true, .editTor 0 cleanEdit, .askHost 0 1 (.refused .permission), .putTor 1 true]

theorem repeated_put_unasked : quietPanel.Untouched ∧
    EachStep Panel.step Panel.Stamped quietPanel enableTor ∧
    (enableTor.foldl Panel.step quietPanel).answered = [1] ∧
    ¬ (enableTor.foldl Panel.step quietPanel).host.Asked 1 := by
  have hb : ((quietPanel.step (.putTor 0 true)).step (.editTor 0 cleanEdit)).host.bound = 0 := by
    decide +kernel
  have hw : (enableTor.foldl Panel.step quietPanel).host.wrote = none := by decide +kernel
  have hs : (enableTor.foldl Panel.step quietPanel).host.started = [] := by decide +kernel
  refine ⟨quietPanel_untouched, ⟨trivial, trivial, ?_, trivial, trivial⟩, by decide +kernel, ?_⟩
  · show ((quietPanel.step (.putTor 0 true)).step (.editTor 0 cleanEdit)).host.bound < 1
    rw [hb]
    decide
  · rintro (⟨w, h, -⟩ | ⟨u, h, -⟩)
    · rw [hw] at h
      cases h
    · rw [hs] at h
      cases h

end VibeDPN
