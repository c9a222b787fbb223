import VibeDPN.Atomic

namespace VibeDPN

structure ApplyResult where
  requestedAt : Rat
  finishedAt : Rat
  ok : Bool
  message : String
deriving DecidableEq

structure ApplyState where
  pending : Bool
  last : Option ApplyResult
deriving DecidableEq

def applyTimeoutSeconds : Rat := 300

def noAnswer : String :=
  "the host did not apply the change: journalctl -u vibedpn-apply, or sudo vibedpn up"

def applyUnit : String := "vibedpn-apply"

def requestFile : String := "apply-request"

def resultFile : String := "apply-result.json"

-- what the two files of the data directory read as
structure ApplyFiles where
  dir : String
  request : Option Rat := none
  result : Option ApplyResult := none
deriving DecidableEq

-- refused: the file did not open; torn: it was emptied and is not whole
inductive RequestWrite where
  | written
  | refused (e : OsError)
  | torn (e : OsError) (left : Option Rat)
deriving DecidableEq

namespace ApplyFiles

def requestApply (f : ApplyFiles) (now : Rat) : RequestWrite → ApplyFiles × Except String Unit
  | .written => ({ f with request := some now }, .ok ())
  | .refused e => (f, .error ("cannot write " ++ f.dir ++ "/" ++ requestFile ++ ": " ++ e.strerror))
  | .torn e left =>
    ({ f with request := left },
      .error ("cannot write " ++ f.dir ++ "/" ++ requestFile ++ ": " ++ e.strerror))

def writeResult (f : ApplyFiles) (result : ApplyResult) (write : WriteOutcome) :
    ApplyFiles × Except String Unit :=
  match writePrivate result write f.result with
  | (result, .ok _) => ({ f with result := result }, .ok ())
  | (result, .error e) =>
    ({ f with result := result },
      .error ("cannot write " ++ f.dir ++ "/" ++ resultFile ++ ": " ++ e.strerror))

def waiting (f : ApplyFiles) : Bool :=
  match f.request with
  | none => false
  | some requested => f.result.all (fun last => last.requestedAt < requested)

def applyState (f : ApplyFiles) (now : Rat) : ApplyState :=
  match f.request with
  | none => ⟨false, f.result⟩
  | some requested =>
    if f.waiting ∧ now - requested > applyTimeoutSeconds then
      ⟨false, some ⟨requested, now, false, noAnswer⟩⟩
    else ⟨f.waiting, f.result⟩

end ApplyFiles

def ApplyState.applied (s : ApplyState) : Bool := !s.pending && s.last.any ApplyResult.ok

-- a run of vibedpn apply: between two reads, before its up, or in it
inductive ApplyRun where
  | idle
  | asked (requested : Rat)
  | inUp (requested : Rat) (started : Nat)
deriving DecidableEq

def ApplyRun.requested : ApplyRun → Option Rat
  | .idle => none
  | .asked requested => some requested
  | .inUp requested _ => some requested

-- clock counts the steps; bound: the latest stamp tried; wrote: the last request written whole and
-- when; started, succeeded: the ups by their starts; origin: the start of the up in the result file
structure ApplyHost where
  files : ApplyFiles
  runs : Nat → ApplyRun := fun _ => .idle
  clock : Nat := 0
  bound : Rat
  wrote : Option (Rat × Nat) := none
  started : List Nat := []
  succeeded : List Nat := []
  origin : Option Nat := none

def upMessage (exit : Nat) : String :=
  if exit = 0 then "applied"
  else "vibedpn up failed (exit " ++ toString exit ++ "); journalctl -u " ++ applyUnit

namespace ApplyHost

def request (h : ApplyHost) (now : Rat) (write : RequestWrite) : ApplyHost × Except String Unit :=
  let (files, asked) := h.files.requestApply now write
  ({ h with
      files := files
      bound := now
      wrote := if write = .written then some (now, h.clock) else h.wrote },
    asked)

def setRun (h : ApplyHost) (pid : Nat) (run : ApplyRun) : ApplyHost :=
  { h with runs := Function.update h.runs pid run }

-- the head of the loop of apply: nothing asked, or already applied, ends the run
def read (h : ApplyHost) (pid : Nat) : ApplyHost :=
  match h.runs pid, h.files.request with
  | .idle, some requested => if h.files.waiting then h.setRun pid (.asked requested) else h
  | _, _ => h

def up (h : ApplyHost) (pid : Nat) : ApplyHost :=
  match h.runs pid with
  | .asked requested =>
    { h.setRun pid (.inUp requested h.clock) with started := h.clock :: h.started }
  | _ => h

def finish (h : ApplyHost) (pid exit : Nat) (finishedAt : Rat) (write : WriteOutcome) : ApplyHost :=
  match h.runs pid with
  | .inUp requested started =>
    let result : ApplyResult := ⟨requested, finishedAt, exit = 0, upMessage exit⟩
    let files := (h.files.writeResult result write).1
    { h.setRun pid .idle with
      files := files
      succeeded := if exit = 0 then started :: h.succeeded else h.succeeded
      origin := if files.result = some result then some started else h.origin }
  | _ => h

def stop (h : ApplyHost) (pid : Nat) : ApplyHost := h.setRun pid .idle

def tick (h : ApplyHost) : ApplyHost := { h with clock := h.clock + 1 }

def top (h : ApplyHost) : Rat :=
  match h.wrote with
  | some w => w.1
  | none => h.bound

structure Sound (h : ApplyHost) : Prop where
  top_le : h.top ≤ h.bound
  request_le : ∀ x ∈ h.files.request, x ≤ h.top
  result_le : ∀ r ∈ h.files.result, r.requestedAt ≤ h.top
  runs_le : ∀ pid, ∀ x ∈ (h.runs pid).requested, x ≤ h.top
  wrote_lt : ∀ w ∈ h.wrote, w.2 < h.clock
  runs_after : ∀ pid x u, h.runs pid = .inUp x u →
    u ∈ h.started ∧ ∀ w ∈ h.wrote, x = w.1 → w.2 < u
  result_after : ∀ r ∈ h.files.result, ∀ w ∈ h.wrote, r.requestedAt = w.1 →
    ∃ u, h.origin = some u ∧ u ∈ h.started ∧ w.2 < u ∧ (r.ok = true → u ∈ h.succeeded)
  live : ∀ w ∈ h.wrote, (h.files.request = some w.1 ∧ h.files.waiting = true) ∨
    ∃ u ∈ h.started, w.2 < u

-- a failed write loses no unanswered request, and leaves none
def Keeps (h : ApplyHost) (now : Rat) : RequestWrite → Prop
  | .torn e left => h.files.waiting = false ∧
      (h.files.requestApply now (.torn e left)).1.waiting = false
  | _ => True

theorem waiting_iff {f : ApplyFiles} : f.waiting = true ↔
    ∃ x, f.request = some x ∧ ∀ r ∈ f.result, r.requestedAt < x := by
  rw [ApplyFiles.waiting]
  cases f.request with
  | none => simp
  | some x => simp [Option.all_eq_true]

theorem setRun_runs (h : ApplyHost) (pid other : Nat) (run : ApplyRun) :
    (h.setRun pid run).runs other = if other = pid then run else h.runs other :=
  Function.update_apply _ _ _ _

theorem requested_setRun (h : ApplyHost) {pid other : Nat} {run : ApplyRun} {x : Rat}
    (hx : x ∈ ((h.setRun pid run).runs other).requested) :
    x ∈ run.requested ∨ x ∈ (h.runs other).requested := by
  rw [setRun_runs] at hx
  split at hx
  · exact .inl hx
  · exact .inr hx

theorem inUp_setRun {h : ApplyHost} {pid other : Nat} {run : ApplyRun} {x : Rat} {u : Nat}
    (hr : (h.setRun pid run).runs other = .inUp x u) :
    run = .inUp x u ∨ h.runs other = .inUp x u := by
  rw [setRun_runs] at hr
  split at hr
  · exact .inl hr
  · exact .inr hr

namespace Sound

variable {h : ApplyHost}

theorem tick (hs : h.Sound) : h.tick.Sound :=
  { hs with wrote_lt := fun w hw => Nat.lt_succ_of_lt (hs.wrote_lt w hw) }

theorem setRun (hs : h.Sound) {pid : Nat} {run : ApplyRun} (hx : ∀ x ∈ run.requested, x ≤ h.top)
    (hu : ∀ x u, run ≠ .inUp x u) : (h.setRun pid run).Sound :=
  { hs with
    runs_le := fun other x hr => (h.requested_setRun hr).elim (hx x) (hs.runs_le other x)
    runs_after := fun other x u hr =>
      (inUp_setRun hr).elim (fun he => absurd he (hu x u)) (hs.runs_after other x u) }

theorem stop (hs : h.Sound) (pid : Nat) : (h.stop pid).Sound :=
  hs.setRun (fun x hx => by simp [ApplyRun.requested] at hx) (fun _ _ he => nomatch he)

theorem read (hs : h.Sound) (pid : Nat) : (h.read pid).Sound := by
  rw [ApplyHost.read]
  split
  · rename_i requested _ hrequest
    split
    · refine hs.setRun (fun x hx => ?_) (fun _ _ he => nomatch he)
      obtain rfl : requested = x := by simpa [ApplyRun.requested] using hx
      exact hs.request_le requested hrequest
    · exact hs
  · exact hs

theorem up (hs : h.Sound) (pid : Nat) : (h.up pid).Sound := by
  rw [ApplyHost.up]
  split
  · rename_i requested hrun
    have hle : requested ≤ h.top := hs.runs_le pid requested (by rw [hrun]; rfl)
    refine
      { hs with
        runs_le := fun other x hr => ?_
        runs_after := fun other x u hr => ?_
        result_after := fun r hr w hw he => ?_
        live := fun w hw => ?_ }
    · rcases h.requested_setRun hr with hx | hx
      · obtain rfl : requested = x := by simpa [ApplyRun.requested] using hx
        exact hle
      · exact hs.runs_le other x hx
    · rcases inUp_setRun hr with he | he
      · cases he
        exact ⟨List.mem_cons_self, fun w hw _ => hs.wrote_lt w hw⟩
      · obtain ⟨hu, hw⟩ := hs.runs_after other x u he
        exact ⟨List.mem_cons_of_mem _ hu, hw⟩
    · obtain ⟨u, ho, hu, hrest⟩ := hs.result_after r hr w hw he
      exact ⟨u, ho, List.mem_cons_of_mem _ hu, hrest⟩
    · rcases hs.live w hw with hl | ⟨u, hu, hlt⟩
      · exact .inl hl
      · exact .inr ⟨u, List.mem_cons_of_mem _ hu, hlt⟩
  · exact hs

theorem writeResult_cases (f : ApplyFiles) (result : ApplyResult) (write : WriteOutcome) :
    (f.writeResult result write).1 = f ∨
      (f.writeResult result write).1 = { f with result := some result } := by
  have hw : (writePrivate result write f.result).1 = f.result ∨
      (writePrivate result write f.result).1 = some result := by
    by_cases h : f.result = some result
    · simp [writePrivate, h]
    · cases write <;> simp [writePrivate, h]
  rw [ApplyFiles.writeResult]
  cases hp : writePrivate result write f.result with
  | mk file written =>
    rw [hp] at hw
    cases written with
    | ok _ => exact hw.imp (fun h => congrArg _ h) (fun h => congrArg _ h)
    | error e => exact hw.imp (fun h => congrArg _ h) (fun h => congrArg _ h)

theorem finish (hs : h.Sound) (pid exit : Nat) (finishedAt : Rat) (write : WriteOutcome) :
    (h.finish pid exit finishedAt write).Sound := by
  rw [ApplyHost.finish]
  split
  · rename_i requested started hrun
    have hle : requested ≤ h.top := hs.runs_le pid requested (by rw [hrun]; rfl)
    obtain ⟨hstarted, hafter⟩ := hs.runs_after pid requested started hrun
    have hidle := hs.stop pid
    dsimp only
    rcases writeResult_cases h.files ⟨requested, finishedAt, exit = 0, upMessage exit⟩ write with
      hf | hf
    · rw [hf]
      refine
        { hidle with
          result_after := fun r hr w hw he => ?_ }
      obtain ⟨u, ho, hu, hlt, hok⟩ := hs.result_after r hr w hw he
      by_cases hsame : h.files.result = some ⟨requested, finishedAt, exit = 0, upMessage exit⟩
      · have hr' : h.files.result = some r := hr
        rw [hr', Option.some.injEq] at hsame
        subst hsame
        refine ⟨started, by rw [if_pos hr'], hstarted, hafter w hw he, fun hok' => ?_⟩
        have he0 : exit = 0 := of_decide_eq_true hok'
        simp [he0]
      · refine ⟨u, by rw [if_neg hsame]; exact ho, hu, hlt, fun hr' => ?_⟩
        have hm := hok hr'
        dsimp only
        split
        · exact List.mem_cons_of_mem _ hm
        · exact hm
    · rw [hf]
      refine
        { hidle with
          result_le := fun r hr => ?_
          result_after := fun r hr w hw he => ?_
          live := fun w hw => ?_ }
      · obtain rfl : _ = r := Option.some.inj hr
        exact hle
      · obtain rfl : _ = r := Option.some.inj hr
        refine ⟨started, by simp, hstarted, hafter w hw he, fun hok => ?_⟩
        have he0 : exit = 0 := of_decide_eq_true hok
        simp [he0]
      · rcases hs.live w hw with ⟨hrequest, -⟩ | hu
        · rcases lt_or_eq_of_le hle with hlt | heq
          · refine .inl ⟨hrequest, ?_⟩
            rw [waiting_iff]
            refine ⟨w.1, hrequest, fun r hr => ?_⟩
            obtain rfl : _ = r := Option.some.inj hr
            have htop : h.top = w.1 := by rw [top, show h.wrote = some w from hw]
            exact htop ▸ hlt
          · have htop : h.top = w.1 := by rw [top, show h.wrote = some w from hw]
            exact .inr ⟨started, hstarted, hafter w hw (heq.trans htop)⟩
        · exact .inr hu
  · exact hs

theorem written (hs : h.Sound) {now : Rat} (hnow : h.bound < now) :
    (h.request now .written).1.tick.Sound := by
  have hlt : h.top < now := lt_of_le_of_lt hs.top_le hnow
  have htop : ((h.request now .written).1.tick).top = now := rfl
  refine ⟨le_of_eq htop, fun x hx => ?_, fun r hr => ?_, fun pid x hx => ?_, fun w hw => ?_,
    fun pid x u hr => ?_, fun r hr w hw he => ?_, fun w hw => ?_⟩
  · obtain rfl : now = x := Option.some.inj hx
    exact le_of_eq htop.symm
  · exact htop ▸ le_of_lt (lt_of_le_of_lt (hs.result_le r hr) hlt)
  · exact htop ▸ le_of_lt (lt_of_le_of_lt (hs.runs_le pid x hx) hlt)
  · obtain rfl : (now, h.clock) = w := Option.some.inj hw
    exact Nat.lt_succ_self _
  · refine ⟨(hs.runs_after pid x u hr).1, fun w hw he => ?_⟩
    obtain rfl : (now, h.clock) = w := Option.some.inj hw
    have hx := hs.runs_le pid x (by rw [show h.runs pid = .inUp x u from hr]; rfl)
    exact absurd he (ne_of_lt (lt_of_le_of_lt hx hlt))
  · obtain rfl : (now, h.clock) = w := Option.some.inj hw
    exact absurd he (ne_of_lt (lt_of_le_of_lt (hs.result_le r hr) hlt))
  · obtain rfl : (now, h.clock) = w := Option.some.inj hw
    refine .inl ⟨rfl, waiting_iff.mpr ⟨now, rfl, fun r hr => ?_⟩⟩
    exact lt_of_le_of_lt (hs.result_le r hr) hlt

theorem failed (hs : h.Sound) {now : Rat} (hnow : h.bound < now) {left : Option Rat}
    (hle : ∀ x ∈ left, x ≤ h.top) (hlive : ∀ w ∈ h.wrote,
      (left = some w.1 ∧ { h.files with request := left }.waiting = true) ∨
        ∃ u ∈ h.started, w.2 < u) :
    Sound { h with files := { h.files with request := left }, bound := now } := by
  have hnew : h.top ≤ top { h with files := { h.files with request := left }, bound := now } ∧
      top { h with files := { h.files with request := left }, bound := now } ≤ now := by
    have ht := hs.top_le
    rw [top] at ht ⊢
    rw [top]
    cases hw : h.wrote with
    | none => exact ⟨le_of_lt hnow, le_refl _⟩
    | some w =>
      rw [hw] at ht
      exact ⟨le_refl _, le_trans ht (le_of_lt hnow)⟩
  exact
    { hs with
      top_le := hnew.2
      request_le := fun x hx => le_trans (hle x hx) hnew.1
      result_le := fun r hr => le_trans (hs.result_le r hr) hnew.1
      runs_le := fun pid x hx => le_trans (hs.runs_le pid x hx) hnew.1
      live := hlive }

theorem request (hs : h.Sound) {now : Rat} {write : RequestWrite} (hnow : h.bound < now)
    (hk : h.Keeps now write) : (h.request now write).1.tick.Sound := by
  cases write with
  | written => exact hs.written hnow
  | refused e => exact (hs.failed hnow hs.request_le hs.live).tick
  | torn e left =>
    obtain ⟨hbefore, hafter⟩ := hk
    refine (hs.failed hnow (fun x hx => ?_) fun w hw => ?_).tick
    · by_contra hgt
      have hwait : ({ h.files with request := left } : ApplyFiles).waiting = true :=
        waiting_iff.mpr ⟨x, hx, fun r hr => lt_of_le_of_lt (hs.result_le r hr) (not_le.mp hgt)⟩
      rw [show ({ h.files with request := left } : ApplyFiles).waiting = false from hafter] at hwait
      cases hwait
    · rcases hs.live w hw with ⟨-, hl⟩ | hl
      · rw [hbefore] at hl
        cases hl
      · exact .inr hl

end Sound

theorem runs_wrote (h : ApplyHost) (pid exit : Nat) (finishedAt : Rat) (write : WriteOutcome) :
    ((h.read pid).wrote = h.wrote ∧ (h.read pid).clock = h.clock) ∧
      ((h.up pid).wrote = h.wrote ∧ (h.up pid).clock = h.clock) ∧
      ((h.finish pid exit finishedAt write).wrote = h.wrote ∧
        (h.finish pid exit finishedAt write).clock = h.clock) := by
  refine ⟨?_, ?_, ?_⟩
  · rw [read]
    split
    · split <;> exact ⟨rfl, rfl⟩
    · exact ⟨rfl, rfl⟩
  · rw [up]
    split <;> exact ⟨rfl, rfl⟩
  · rw [finish]
    split <;> exact ⟨rfl, rfl⟩

def Asked (h : ApplyHost) (t : Nat) : Prop :=
  (∃ w ∈ h.wrote, t < w.2 ∧ h.files.request = some w.1 ∧ h.files.waiting = true) ∨
    ∃ u ∈ h.started, t < u

variable {h : ApplyHost}

theorem Sound.asked (hs : h.Sound) {w : Rat × Nat} (hw : w ∈ h.wrote) {t : Nat} (ht : t < w.2) :
    h.Asked t := by
  rcases hs.live w hw with ⟨hr, hl⟩ | ⟨u, hu, hlt⟩
  · exact .inl ⟨w, hw, ht, hr, hl⟩
  · exact .inr ⟨u, hu, ht.trans hlt⟩

theorem not_waiting_of_covered {f : ApplyFiles} {x : Rat} {r : ApplyResult}
    (hx : f.request = some x) (hr : f.result = some r) (hc : x ≤ r.requestedAt) :
    f.waiting = false := by
  rw [← Bool.not_eq_true, waiting_iff]
  rintro ⟨y, hy, hall⟩
  obtain rfl : x = y := Option.some.inj (hx.symm.trans hy)
  exact absurd (hall r hr) (not_lt.mpr hc)

theorem applyState_covered {f : ApplyFiles} {x : Rat} {r : ApplyResult} (hx : f.request = some x)
    (hr : f.result = some r) (hc : x ≤ r.requestedAt) (now : Rat) :
    f.applyState now = ⟨false, some r⟩ := by
  have hw := not_waiting_of_covered hx hr hc
  simp only [ApplyFiles.applyState, hx, hw, hr, Bool.false_eq_true, false_and, if_false]

theorem Sound.covered (hs : h.Sound) {w : Rat × Nat} (hw : w ∈ h.wrote) {r : ApplyResult}
    (hr : h.files.result = some r) (hc : w.1 ≤ r.requestedAt) :
    ∃ u, h.origin = some u ∧ u ∈ h.started ∧ w.2 < u ∧ (r.ok = true → u ∈ h.succeeded) := by
  have htop : h.top = w.1 := by rw [top, show h.wrote = some w from hw]
  have hle := hs.result_le r hr
  rw [htop] at hle
  exact hs.result_after r hr w hw (le_antisymm hle hc)

theorem applied_covered {f : ApplyFiles} {x : Rat} (hx : f.request = some x) {now : Rat}
    (ha : (f.applyState now).applied = true) :
    ∃ r, f.result = some r ∧ x ≤ r.requestedAt ∧ r.ok = true := by
  simp only [ApplyFiles.applyState, hx] at ha
  split at ha
  · cases ha
  · rw [ApplyState.applied, Bool.and_eq_true, Bool.not_eq_true'] at ha
    obtain ⟨r, hr, hok⟩ := (Option.any_eq_true _ _).mp ha.2
    refine ⟨r, hr, ?_, hok⟩
    by_contra hgt
    have hw : f.waiting = true := waiting_iff.mpr ⟨x, hx, fun r' hr' => by
      obtain rfl : r = r' := Option.some.inj (hr.symm.trans hr')
      exact not_le.mp hgt⟩
    rw [hw] at ha
    cases ha.1

theorem Sound.applied (hs : h.Sound) {w : Rat × Nat} (hw : w ∈ h.wrote)
    (hx : h.files.request = some w.1) {now : Rat} (ha : (h.files.applyState now).applied = true) :
    ∃ u ∈ h.succeeded, w.2 < u := by
  obtain ⟨r, hr, hc, hok⟩ := applied_covered hx ha
  obtain ⟨u, -, -, hlt, hsucc⟩ := hs.covered hw hr hc
  exact ⟨u, hsucc hok, hlt⟩

end ApplyHost

end VibeDPN
