import VibeDPN.Engine.Resolver
import VibeDPN.ConfigEdit.Exits

namespace VibeDPN

inductive EditError where
  | change (e : ChangeError)
  | router (message : String)
  | resolver (message : String)
  | write (e : OsError)
deriving DecidableEq

-- one run of the apply step: what apply_router raises, and nft for each name the resolver refills
structure Attempt where
  router : Except String Unit
  now : Rat
  nft : String → NftOutcome

def Fields.onNetwork (c : Fields) (network : Option NetworkConfig) : Fields :=
  { c with network := network }

-- host: the configuration apply_router last applied whole, none since one it refused
structure Box (Text : Type) where
  path : String
  file : Text
  config : Fields
  saved : Option Fields := none
  host : Option Fields
  steering : Option Steering

inductive Call (Text : Type) where
  | save (change : Change Text) (write : WriteOutcome)
  | edit (change : Change Text) (write : WriteOutcome) (attempt : Attempt)
      (restore : WriteOutcome) (again : Attempt)

namespace Box

variable {Text : Type} [DecidableEq Text] (validate : Text → Option Config)

def apply (b : Box Text) (c : Fields) (attempt : Attempt) : Box Text × Except EditError Unit :=
  match attempt.router with
  | .error e => ({ b with host := none }, .error (.router e))
  | .ok () =>
    match b.steering with
    | none => ({ b with host := some c }, .ok ())
    | some s =>
      match s.reload c attempt.now attempt.nft with
      | (s, .ok ()) => ({ b with host := some c, steering := some s }, .ok ())
      | (s, .error e) => ({ b with host := some c, steering := some s }, .error (.resolver e))

def save (b : Box Text) (change : Change Text) (write : WriteOutcome) :
    Box Text × Except EditError Fields :=
  match editFile b.path validate change write b.file with
  | (file, .error e) => ({ b with file := file }, .error (.change e))
  | (file, .ok (config, _)) =>
    ({ b with
        file := file
        saved := if config.network ≠ b.config.network then some config.toFields else none },
      .ok config.toFields)

-- the previous file first, then the previous configuration; its RouterError is suppressed
def rollBack (b : Box Text) (before : Text) (restore : WriteOutcome) (again : Attempt)
    (message : String) : Box Text × EditError :=
  match writeLike before restore b.file with
  | (file, .error e) => ({ b with file := file }, .write e)
  | (file, .ok _) =>
    match { b with file := file }.apply b.config again with
    | (b, .error (.resolver e)) => (b, .resolver e)
    | (b, _) => (b, .router message)

def edit (b : Box Text) (change : Change Text) (write : WriteOutcome) (attempt : Attempt)
    (restore : WriteOutcome) (again : Attempt) : Box Text × Except EditError Fields :=
  match editFile b.path validate change write b.file with
  | (file, .error e) => ({ b with file := file }, .error (.change e))
  | (file, .ok (written, changed)) =>
    let config := written.onNetwork b.config.network
    if changed then
      match { b with file := file }.apply config attempt with
      | (after, .ok ()) =>
        ({ after with
            config := config
            saved := if b.saved.isSome then some written.toFields else none },
          .ok config)
      | (after, .error (.router e)) =>
        let (restored, error) := after.rollBack b.file restore again e
        (restored, .error error)
      | (after, .error e) => (after, .error e)
    else ({ b with file := file, config := config }, .ok config)

def call (b : Box Text) : Call Text → Box Text × Except EditError Fields
  | .save change write => b.save validate change write
  | .edit change write attempt restore again => b.edit validate change write attempt restore again

def step (b : Box Text) (call : Call Text) : Box Text := (b.call validate call).1

structure Agrees (b : Box Text) : Prop where
  file : ∃ c, validate b.file = some c ∧ c.onNetwork b.config.network = b.config
  host : b.host = some b.config

structure Same (b b' : Box Text) : Prop where
  file : b'.file = b.file
  config : b'.config = b.config
  host : b'.host = b.host

def AllOrNothing (b : Box Text) (call : Call Text) : Prop :=
  (b.step validate call).Agrees validate ∧
    ∀ e, (b.call validate call).2 = .error e → b.Same (b.step validate call)

def incoming (b : Box Text) (change : Change Text) : Option (Text × Config) :=
  match change b.file with
  | .error _ => none
  | .ok text =>
    if text = b.file then none
    else
      match validate text with
      | none => none
      | some c => some (text, c)

def RefillsAfter (b : Box Text) (c : Fields) (attempt : Attempt) : Prop :=
  ∀ s, b.steering = some s → ∀ name ∈ s.resolver.recent.keys,
    Steering.Refills (s.resolver.rebuild c) attempt.now attempt.nft name

end Box

def WriteOutcome.Settles : WriteOutcome → Prop → Prop
  | .replaced, rest => rest
  | .refused _, _ => True
  | .unsynced _, _ => False

namespace Call

variable {Text : Type} [DecidableEq Text] (validate : Text → Option Config)

def Clear (b : Box Text) : Call Text → Prop
  | .save change write => ∀ p, b.incoming validate change = some p →
      write.Settles (p.2.onNetwork b.config.network = b.config)
  | .edit change write attempt restore _ => ∀ p, b.incoming validate change = some p →
      write.Settles
        (match attempt.router with
          | .ok () => b.RefillsAfter (p.2.onNetwork b.config.network) attempt
          | .error _ => restore = .replaced)

def Reapplied : Call Text → Prop
  | .save _ _ => True
  | .edit _ _ _ _ again => again.router = .ok ()

end Call

namespace Box

variable {Text : Type} {validate : Text → Option Config} {b : Box Text}

theorem Same.agrees {b' : Box Text} (hs : b.Same b') (hb : b.Agrees validate) :
    b'.Agrees validate where
  file := by
    rw [hs.file, hs.config]
    exact hb.file
  host := by
    rw [hs.host, hs.config]
    exact hb.host

theorem apply_refused (b : Box Text) {c : Fields} {attempt : Attempt} {e : String}
    (h : attempt.router = .error e) :
    b.apply c attempt = ({ b with host := none }, .error (.router e)) := by
  simp [apply, h]

theorem apply_taken (b : Box Text) {c : Fields} {attempt : Attempt} (h : attempt.router = .ok ()) :
    ∃ steering, (b.apply c attempt).1 = { b with host := some c, steering := steering } ∧
      ((b.apply c attempt).2 = .ok () ∧ b.RefillsAfter c attempt ∨
        (∃ e, (b.apply c attempt).2 = .error (.resolver e)) ∧ ¬ b.RefillsAfter c attempt) := by
  cases hs : b.steering with
  | none =>
    refine ⟨none, ?_, .inl ⟨?_, ?_⟩⟩
    · simp [apply, h, hs]
    · simp [apply, h, hs]
    · intro s hs'
      simp [hs] at hs'
  | some s =>
    have hr := s.reload_isOk c attempt.now attempt.nft
    have hafter : b.RefillsAfter c attempt ↔
        ∀ name ∈ s.resolver.recent.keys,
          Steering.Refills (s.resolver.rebuild c) attempt.now attempt.nft name := by
      simp [RefillsAfter, hs]
    rw [hafter, ← hr]
    simp only [apply, h, hs]
    cases hl : s.reload c attempt.now attempt.nft with
    | mk s' result =>
      refine ⟨some s', ?_⟩
      cases result with
      | ok _ => simp
      | error e => simp

theorem apply_keeps (b : Box Text) (c : Fields) (attempt : Attempt) :
    (b.apply c attempt).1.file = b.file ∧ (b.apply c attempt).1.config = b.config := by
  cases h : attempt.router with
  | error e =>
    rw [apply_refused b h]
    exact ⟨rfl, rfl⟩
  | ok _ =>
    obtain ⟨steering, ha, _⟩ := apply_taken b (c := c) h
    rw [ha]
    exact ⟨rfl, rfl⟩

section Calls

variable [DecidableEq Text]

theorem writeLike_file (text : Text) (write : WriteOutcome) (file : Text) :
    (writeLike text write file).1 = file ∨ (writeLike text write file).1 = text := by
  unfold writeLike
  split
  · exact .inl rfl
  · cases write with
    | replaced => exact .inr rfl
    | refused e => exact .inl rfl
    | unsynced e => exact .inr rfl

theorem rollBack_keeps (b : Box Text) (before : Text) (restore : WriteOutcome) (again : Attempt)
    (message : String) :
    ((b.rollBack before restore again message).1.file = b.file ∨
      (b.rollBack before restore again message).1.file = before) ∧
      (b.rollBack before restore again message).1.config = b.config := by
  have hw := writeLike_file before restore b.file
  rw [rollBack]
  cases h : writeLike before restore b.file with
  | mk file result =>
    rw [h] at hw
    cases result with
    | error e => exact ⟨hw, rfl⟩
    | ok _ =>
      have ha := apply_keeps { b with file := file } b.config again
      dsimp only
      split
      · rename_i h'
        rw [h'] at ha
        exact ⟨ha.1.symm ▸ hw, ha.2⟩
      · rename_i h'
        rw [h'] at ha
        exact ⟨ha.1.symm ▸ hw, ha.2⟩

variable (validate) in
theorem editFile_file (path : String) (change : Change Text) (write : WriteOutcome) (file : Text) :
    (editFile path validate change write file).1 = file ∨
      change file = .ok (editFile path validate change write file).1 := by
  rw [editFile]
  cases hc : change file with
  | error e => exact .inl rfl
  | ok text =>
    dsimp only
    cases validate text with
    | none => exact .inl rfl
    | some c =>
      have hw := writeLike_file text write file
      cases h : writeLike text write file with
      | mk file' result =>
        rw [h] at hw
        cases result with
        | error e => exact hw.imp id fun ht => by rw [← ht]
        | ok changed => exact hw.imp id fun ht => by rw [← ht]

theorem editFile_ok {path : String} {change : Change Text} {write : WriteOutcome}
    {file file' : Text} {c : Config} {changed : Bool}
    (h : editFile path validate change write file = (file', .ok (c, changed))) :
    ∃ text, change file = .ok text ∧ validate text = some c := by
  rw [editFile] at h
  split at h
  · cases h
  · rename_i text hc
    split at h
    · cases h
    · rename_i c' hv
      split at h
      · cases h
        exact ⟨text, hc, hv⟩
      · cases h

variable (validate) in
theorem edit_file (b : Box Text) (change : Change Text) (write : WriteOutcome) (attempt : Attempt)
    (restore : WriteOutcome) (again : Attempt) :
    (b.edit validate change write attempt restore again).1.file = b.file ∨
      change b.file = .ok (b.edit validate change write attempt restore again).1.file := by
  have hf := editFile_file validate b.path change write b.file
  rw [edit]
  cases he : editFile b.path validate change write b.file with
  | mk file result =>
    rw [he] at hf
    cases result with
    | error e => exact hf
    | ok p =>
      obtain ⟨written, changed⟩ := p
      cases changed with
      | false => exact hf
      | true =>
        have ha := (apply_keeps { b with file := file } (written.onNetwork b.config.network)
          attempt).1
        simp only [if_true]
        split
        · rename_i h'
          rw [h'] at ha
          exact ha.symm ▸ hf
        · rename_i after e h'
          rw [h'] at ha
          rcases (rollBack_keeps after b.file restore again e).1 with hr | hr
          · rw [hr, show after.file = file from ha]
            exact hf
          · exact .inl hr
        · rename_i h'
          rw [h'] at ha
          exact ha.symm ▸ hf

variable (validate) in
theorem edit_config (b : Box Text) (change : Change Text) (write : WriteOutcome)
    (attempt : Attempt) (restore : WriteOutcome) (again : Attempt) :
    (∃ text c, change b.file = .ok text ∧ validate text = some c ∧
      (b.edit validate change write attempt restore again).2 =
        .ok (c.onNetwork b.config.network) ∧
      (b.edit validate change write attempt restore again).1.config =
        c.onNetwork b.config.network) ∨
    ((∃ e, (b.edit validate change write attempt restore again).2 = .error e) ∧
      (b.edit validate change write attempt restore again).1.config = b.config) := by
  rw [edit]
  cases he : editFile b.path validate change write b.file with
  | mk file result =>
    cases result with
    | error e => exact .inr ⟨⟨_, rfl⟩, rfl⟩
    | ok p =>
      obtain ⟨written, changed⟩ := p
      obtain ⟨text, hc, hv⟩ := editFile_ok he
      cases changed with
      | false => exact .inl ⟨text, written, hc, hv, rfl, rfl⟩
      | true =>
        have ha := (apply_keeps { b with file := file } (written.onNetwork b.config.network)
          attempt).2
        simp only [if_true]
        split
        · exact .inl ⟨text, written, hc, hv, rfl, rfl⟩
        · rename_i after e h'
          rw [h'] at ha
          exact .inr ⟨⟨_, rfl⟩, (rollBack_keeps after b.file restore again e).2.trans ha⟩
        · rename_i h'
          rw [h'] at ha
          exact .inr ⟨⟨_, rfl⟩, ha⟩

theorem allOrNothing_of_same {call : Call Text} (hb : b.Agrees validate)
    (hs : b.Same (b.step validate call)) : b.AllOrNothing validate call :=
  ⟨hs.agrees hb, fun _ _ => hs⟩

theorem editFile_quiet {change : Change Text} (h : b.incoming validate change = none)
    (write : WriteOutcome) :
    (∃ e, editFile b.path validate change write b.file = (b.file, .error e)) ∨
      ∃ c, validate b.file = some c ∧ editFile b.path validate change write b.file = (b.file, .ok (c, false)) := by
  rw [incoming] at h
  rw [editFile]
  cases hc : change b.file with
  | error e => exact .inl ⟨e, rfl⟩
  | ok text =>
    simp only [hc] at h ⊢
    cases hv : validate text with
    | none => exact .inl ⟨_, rfl⟩
    | some c =>
      by_cases ht : text = b.file
      · exact .inr ⟨c, ht ▸ hv, by simp [writeLike, ht]⟩
      · simp [ht, hv] at h

theorem editFile_incoming {change : Change Text} {text : Text} {c : Config}
    (h : b.incoming validate change = some (text, c)) (write : WriteOutcome) :
    text ≠ b.file ∧ validate text = some c ∧
      editFile b.path validate change write b.file =
        match write with
        | .replaced => (text, .ok (c, true))
        | .refused e => (b.file, .error (.edit (e.message b.path)))
        | .unsynced e => (text, .error (.edit (e.message b.path))) := by
  rw [incoming] at h
  rw [editFile]
  cases hc : change b.file with
  | error e => simp [hc] at h
  | ok text' =>
    simp only [hc] at h ⊢
    split at h
    · cases h
    · rename_i ht
      cases hv : validate text' with
      | none => simp [hv] at h
      | some c' =>
        simp only [hv, Option.some.injEq, Prod.mk.injEq] at h
        obtain ⟨rfl, rfl⟩ := h
        refine ⟨ht, hv, ?_⟩
        have hne : b.file ≠ text' := fun e => ht e.symm
        cases write <;> simp [writeLike, hne]

theorem save_quiet {change : Change Text} (h : b.incoming validate change = none)
    (write : WriteOutcome) : b.Same (b.save validate change write).1 := by
  rw [save]
  rcases editFile_quiet h write with ⟨e, he⟩ | ⟨c, _, he⟩
  · rw [he]
    exact ⟨rfl, rfl, rfl⟩
  · rw [he]
    exact ⟨rfl, rfl, rfl⟩

theorem edit_quiet (hb : b.Agrees validate) {change : Change Text}
    (h : b.incoming validate change = none) (write : WriteOutcome) (attempt : Attempt)
    (restore : WriteOutcome) (again : Attempt) :
    b.Same (b.edit validate change write attempt restore again).1 := by
  rw [edit]
  rcases editFile_quiet h write with ⟨e, he⟩ | ⟨c, hc, he⟩
  · rw [he]
    exact ⟨rfl, rfl, rfl⟩
  · obtain ⟨c', hc', hn⟩ := hb.file
    rw [he]
    rw [hc, Option.some.injEq] at hc'
    subst hc'
    exact ⟨rfl, hn, rfl⟩

theorem save_iff (hb : b.Agrees validate) (change : Change Text) (write : WriteOutcome) :
    b.AllOrNothing validate (.save change write) ↔ (Call.save change write).Clear validate b := by
  cases hi : b.incoming validate change with
  | none =>
    simp only [Call.Clear, hi, reduceCtorEq, false_imp_iff, implies_true, iff_true]
    exact allOrNothing_of_same hb (save_quiet hi write)
  | some p =>
    obtain ⟨text, c⟩ := p
    obtain ⟨hne, hv, he⟩ := editFile_incoming hi write
    simp only [Call.Clear, hi, Option.some.injEq, forall_eq', AllOrNothing, step, call, save, he]
    cases write with
    | replaced =>
      simp only [WriteOutcome.Settles, reduceCtorEq, false_imp_iff, implies_true, and_true]
      constructor
      · rintro ⟨⟨c', hc', hn⟩, _⟩
        simp only [hv, Option.some.injEq] at hc'
        subst hc'
        exact hn
      · intro hn
        exact ⟨⟨c, hv, hn⟩, hb.host⟩
    | refused reason =>
      simp only [WriteOutcome.Settles, iff_true]
      exact ⟨⟨hb.file, hb.host⟩, fun _ _ => ⟨rfl, rfl, rfl⟩⟩
    | unsynced reason =>
      simp only [WriteOutcome.Settles, iff_false]
      rintro ⟨_, hs⟩
      exact hne (hs _ rfl).file

theorem rollBack_restored (b : Box Text) (before : Text) (hne : b.file ≠ before) {again : Attempt}
    (ha : again.router = .ok ()) (message : String) :
    ∃ steering, (b.rollBack before .replaced again message).1 =
      { b with file := before, host := some b.config, steering := steering } := by
  obtain ⟨steering, hb, hr⟩ := apply_taken { b with file := before } (c := b.config) ha
  refine ⟨steering, ?_⟩
  rw [← hb]
  simp only [rollBack, writeLike, hne, if_false]
  rcases hr with ⟨hr, _⟩ | ⟨⟨e, hr⟩, _⟩
  · split
    · rename_i h
      simp [h] at hr
    · rename_i h
      simp [h]
  · split
    · rename_i h
      simp [h]
    · rename_i h
      simp [h]

theorem edit_iff (hb : b.Agrees validate) (change : Change Text) (write : WriteOutcome)
    (attempt : Attempt) (restore : WriteOutcome) {again : Attempt} (ha : again.router = .ok ()) :
    b.AllOrNothing validate (.edit change write attempt restore again) ↔
      (Call.edit change write attempt restore again).Clear validate b := by
  cases hi : b.incoming validate change with
  | none =>
    simp only [Call.Clear, hi, reduceCtorEq, false_imp_iff, implies_true, iff_true]
    exact allOrNothing_of_same hb (edit_quiet hb hi write attempt restore again)
  | some p =>
    obtain ⟨text, c⟩ := p
    obtain ⟨hne, hv, he⟩ := editFile_incoming hi write
    simp only [Call.Clear, hi, Option.some.injEq, forall_eq', AllOrNothing, step, call, edit, he]
    cases write with
    | refused reason =>
      simp only [WriteOutcome.Settles, iff_true]
      exact ⟨⟨hb.file, hb.host⟩, fun _ _ => ⟨rfl, rfl, rfl⟩⟩
    | unsynced reason =>
      simp only [WriteOutcome.Settles, iff_false]
      rintro ⟨_, hs⟩
      exact hne (hs _ rfl).file
    | replaced =>
      simp only [WriteOutcome.Settles, if_true]
      cases hr : attempt.router with
      | ok _ =>
        obtain ⟨steering, hafter, hres⟩ := apply_taken { b with file := text }
          (c := c.onNetwork b.config.network) hr
        cases hp : apply { b with file := text } (c.onNetwork b.config.network) attempt with
        | mk after result =>
          rw [hp] at hafter hres
          dsimp only at hafter hres
          subst hafter
          rcases hres with ⟨rfl, hf⟩ | ⟨⟨e, rfl⟩, hf⟩
          · simp only [reduceCtorEq, false_imp_iff, implies_true, and_true]
            exact ⟨fun _ => hf, fun _ => ⟨⟨c, hv, rfl⟩, rfl⟩⟩
          · refine ⟨?_, fun h => absurd h hf⟩
            rintro ⟨_, hs⟩
            exact absurd (hs _ rfl).file hne
      | error e =>
        rw [apply_refused _ hr]
        dsimp only
        cases restore with
        | replaced =>
          obtain ⟨steering, hroll⟩ := rollBack_restored
            { b with file := text, host := none } b.file hne ha e
          simp only [hroll, iff_true]
          exact ⟨⟨hb.file, rfl⟩, fun _ _ => ⟨rfl, rfl, hb.host.symm⟩⟩
        | refused reason =>
          simp only [rollBack, writeLike, hne, if_false, reduceCtorEq, iff_false]
          rintro ⟨_, hs⟩
          exact hne (hs _ rfl).file
        | unsynced reason =>
          simp only [rollBack, writeLike, hne, if_false, reduceCtorEq, iff_false]
          rintro ⟨ha, _⟩
          exact absurd ha.host (by simp)

theorem call_iff (hb : b.Agrees validate) {call : Call Text} (hr : call.Reapplied) :
    b.AllOrNothing validate call ↔ call.Clear validate b := by
  cases call with
  | save change write => exact save_iff hb change write
  | edit change write attempt restore again => exact edit_iff hb change write attempt restore hr

end Calls

end Box

theorem live_edits_all_or_nothing {Text : Type} [DecidableEq Text]
    {validate : Text → Option Config} {init b : Box Text} (hi : init.Agrees validate)
    (h : Guarded (Box.step validate) (fun b call => call.Reapplied ∧ call.Clear validate b) init b)
    {call : Call Text} (hr : call.Reapplied) :
    b.Agrees validate ∧ (b.AllOrNothing validate call ↔ call.Clear validate b) := by
  have hb : b.Agrees validate := h.invariant (Box.Agrees validate) hi
    fun s e hs hg => ((Box.call_iff hs hg.1).mpr hg.2).1
  exact ⟨hb, Box.call_iff hb hr⟩

def ruleSteering : Steering where
  resolver :=
    { index := RuleIndex.fromConfig siteConfig.toFields Dict.empty
      recent := Dict.empty.set "site.example" ⟨[0x08080808#32], 300, 300⟩ }
  sets := fun _ _ => none

def siteBox : Box Document where
  path := "config.yaml"
  file := ruleDocument "site.example"
  config := siteConfig.toFields
  host := some siteConfig.toFields
  steering := some ruleSteering

def unlearningRule : Change Document :=
  setDomainRule "config.yaml" { siteRule with learn := false }

def nftCalls (outcome : NftOutcome) : Attempt := ⟨.ok (), 0, fun _ => outcome⟩

theorem siteBox_agrees : siteBox.Agrees Document.validate :=
  ⟨⟨siteConfig, by decide +kernel, rfl⟩, rfl⟩

def routerRefusal : Call Document :=
  .edit unlearningRule .replaced ⟨.error "nft failed", 0, fun _ => .loaded⟩ .replaced
    (nftCalls .loaded)

theorem router_refusal_restored :
    (siteBox.step Document.validate routerRefusal).Agrees Document.validate :=
  (live_edits_all_or_nothing siteBox_agrees (.next routerRefusal .start ⟨rfl, fun _ _ => rfl⟩)
    (show routerRefusal.Reapplied from rfl)).1

def resolverRefusal : Call Document :=
  .edit unlearningRule .replaced (nftCalls (.failed "no such set")) .replaced (nftCalls .loaded)

theorem resolver_refusal_splits : siteBox.Agrees Document.validate ∧ resolverRefusal.Reapplied ∧
    ¬ siteBox.AllOrNothing Document.validate resolverRefusal := by
  refine ⟨siteBox_agrees, rfl, ?_⟩
  rintro ⟨_, hs⟩
  have hraised : (siteBox.call Document.validate resolverRefusal).2 =
      .error (.resolver "nft could not fill a smart set: no such set") := by decide +kernel
  have hfile := (hs _ hraised).file
  revert hfile
  decide +kernel

end VibeDPN
