import VibeDPN.Api.State

namespace VibeDPN

structure ListState where
  url : String
  domains : Nat
  fetchedAt : Option Rat
  error : String := ""
deriving DecidableEq

def listRefreshSeconds : Rat := 24 * 3600

def listRetrySeconds : Rat := 15 * 60

def listDue (state : Option ListState) (attempted : Option Rat) (now : Rat) : Bool :=
  match state with
  | none => true
  | some state =>
    if state.error ≠ "" then attempted.all (fun last => listRetrySeconds ≤ now - last)
    else state.fetchedAt.all (fun last => listRefreshSeconds ≤ now - last)

def Fields.listUrls (c : Fields) : List String :=
  match c.routing with
  | none => []
  | some routing => routing.lists.map (fun item => item.url.val)

inductive RoundPhase where
  | asking (urls : List String)
  | handing
deriving DecidableEq

-- the variables of watch_lists between two of its awaits
structure Round where
  config : Fields
  domains : FetchedLists
  states : Dict String ListState
  changed : Bool
  phase : RoundPhase

abbrev Refreshed := Except String (List DomainName × ListState)

structure ListsBox (Text : Type) where
  box : Box Text
  status : Dict String ListState := Dict.empty
  attempted : Dict String Rat := Dict.empty
  round : Option Round := none

-- clock is read before a list is due and again when it is asked
inductive ListsEvent (Text : Type) where
  | call (call : Call Text)
  | start
  | ask (now asked : Rat) (refreshed : Refreshed)
  | prune (outcome : Except OsError Unit)
  | handOver (now : Rat) (nft : String → NftOutcome)

def Round.take (round : Round) (url : String) (got : List DomainName) (state : ListState) : Round :=
  { round with
    states := round.states.set url state
    domains := if round.domains.get? url = some got then round.domains
      else round.domains.set url got
    changed := round.changed || round.domains.get? url ≠ some got }

namespace ListsBox

variable {Text : Type}

def start (b : ListsBox Text) : ListsBox Text :=
  match b.round, b.box.steering with
  | none, some s =>
    let urls := b.box.config.listUrls
    let gone := s.resolver.lists.keys.filter (· ∉ urls)
    { b with
      attempted := gone.foldl Dict.erase b.attempted
      round := some
        { config := b.box.config
          domains := gone.foldl Dict.erase s.resolver.lists
          states := (b.status.keys.filter (· ∉ urls)).foldl Dict.erase b.status
          changed := gone ≠ []
          phase := .asking urls } }
  | _, _ => b

def ask (b : ListsBox Text) (now asked : Rat) (refreshed : Refreshed) : ListsBox Text :=
  match b.round with
  | none => b
  | some round =>
    match round.phase with
    | .asking (url :: urls) =>
      let rest := { round with phase := .asking urls }
      if listDue (round.states.get? url) (b.attempted.get? url) now then
        let attempted := b.attempted.set url asked
        match refreshed with
        | .ok (got, state) => { b with attempted := attempted, round := some (rest.take url got state) }
        | .error reason =>
          let got := (round.domains.get? url).getD []
          { b with
            attempted := attempted
            round := some (rest.take url got ⟨url, got.length, none, reason⟩) }
      else { b with round := some rest }
    | _ => b

-- a round that raises is started anew, with nothing attempted
def prune (b : ListsBox Text) (outcome : Except OsError Unit) : ListsBox Text :=
  match b.round with
  | none => b
  | some round =>
    match round.phase with
    | .asking [] =>
      let b := { b with status := round.states }
      if round.changed then
        match outcome with
        | .ok () => { b with round := some { round with phase := .handing } }
        | .error _ => { b with attempted := Dict.empty, round := none }
      else { b with round := none }
    | _ => b

def handOver (b : ListsBox Text) (now : Rat) (nft : String → NftOutcome) : ListsBox Text :=
  match b.round, b.box.steering with
  | some round, some s =>
    if round.phase = .handing then
      match s.setLists round.config round.domains now nft with
      | (s, .ok ()) => { b with box := { b.box with steering := some s }, round := none }
      | (s, .error _) =>
        { b with box := { b.box with steering := some s }, attempted := Dict.empty, round := none }
    else b
  | _, _ => b

variable [DecidableEq Text] (validate : Text → Option Config)

def step (b : ListsBox Text) : ListsEvent Text → ListsBox Text
  | .call call => { b with box := b.box.step validate call }
  | .start => b.start
  | .ask now asked refreshed => b.ask now asked refreshed
  | .prune outcome => b.prune outcome
  | .handOver now nft => b.handOver now nft

end ListsBox

def Fields.ruleTable (c : Fields) : List (String × String) × List (ListUrl × String) :=
  match c.routing with
  | none => ([], [])
  | some routing =>
    (ruleEntries routing,
      routing.lists.map (fun item => (item.url, channelSet item.toDomainChannel)))

def Box.InStepWith {Text : Type} (b : Box Text) (c : Fields) : Prop :=
  ∀ s, b.steering = some s → ∀ key,
    s.resolver.index.get? key = (s.resolver.rebuild c).index.get? key

namespace ListsBox

variable {Text : Type}

def InStep (b : ListsBox Text) : Prop := b.box.InStepWith b.box.config

end ListsBox

section Guards

variable {Text : Type} [DecidableEq Text] (validate : Text → Option Config)

def Call.Taken (b : Box Text) : Call Text → Prop
  | .save _ _ => True
  | .edit change write attempt _ _ =>
    (∀ p, b.incoming validate change = some p → write = .replaced → attempt.router = .ok () →
      b.RefillsAfter (p.2.onNetwork b.config.network) attempt ∨
        p.2.ruleTable = b.config.ruleTable) ∧
    (b.incoming validate change = none → change b.file = .ok b.file →
      ∀ c, validate b.file = some c → c.ruleTable = b.config.ruleTable)

def ListsEvent.Fresh (b : ListsBox Text) : ListsEvent Text → Prop
  | .call c => c.Taken validate b.box
  | .handOver _ _ => ∀ round, b.round = some round → round.phase = .handing →
      round.config.ruleTable = b.box.config.ruleTable
  | _ => True

end Guards

theorem listEntries_table {c : Fields} {routing : RoutingConfig} (h : c.routing = some routing)
    (lists : FetchedLists) : listEntries routing lists =
      c.ruleTable.2.flatMap (fun item => (fetched lists item.1).map (fun name => (name.val, item.2))) := by
  simp only [Fields.ruleTable, h, listEntries, List.flatMap_map]

theorem fromConfig_table {c d : Fields} (h : c.ruleTable = d.ruleTable) (lists : FetchedLists) :
    RuleIndex.fromConfig c lists = RuleIndex.fromConfig d lists := by
  have he : ∀ c : Fields, RuleIndex.fromConfig c lists =
      (RuleIndex.addAll Dict.empty (c.ruleTable.2.flatMap
        (fun item => (fetched lists item.1).map (fun name => (name.val, item.2))))).addAll
        c.ruleTable.1 := by
    intro c
    cases hr : c.routing with
    | none => simp only [RuleIndex.fromConfig, Fields.ruleTable, hr]; rfl
    | some routing =>
      rw [← listEntries_table hr]
      simp only [RuleIndex.fromConfig, Fields.ruleTable, hr]
  rw [he c, he d, h]

theorem Resolver.rebuild_table {c d : Fields} (h : c.ruleTable = d.ruleTable) (r : Resolver) :
    r.rebuild c = r.rebuild d := by
  rw [Resolver.rebuild, fromConfig_table h, Resolver.rebuild]

theorem Steering.reload_resolver (s : Steering) (c : Fields) (now : Rat)
    (nft : String → NftOutcome) : (s.reload c now nft).1.resolver = s.resolver.rebuild c := by
  have h := foldlM_invariant (f := replayName now nft)
    (P := fun t => t.resolver = s.resolver.rebuild c) s.resolver.recent.keys
    (fun t name _ ht u hu => (replayName_resolver.1 u hu).trans ht)
    (fun t name _ ht e he => (replayName_resolver.2 e he).trans ht)
    (s := { s with resolver := s.resolver.rebuild c }) rfl
  rw [reload, replay, s.resolver.rebuild_recent c]
  split
  · exact h.1 _ (by assumption)
  · exact h.2 _ (by assumption)

namespace Box

variable {Text : Type} {b : Box Text} {c d : Fields}

theorem InStepWith.congr (h : c.ruleTable = d.ruleTable) (hb : b.InStepWith c) :
    b.InStepWith d := by
  intro s hs key
  rw [← Resolver.rebuild_table h]
  exact hb s hs key

theorem inStepWith_of_steering {b b' : Box Text} (h : b'.steering = b.steering)
    (hb : b.InStepWith c) : b'.InStepWith c := fun s hs => hb s (h ▸ hs)

theorem inStepWith_rebuilt {s s' : Steering} (h : s'.resolver = s.resolver.rebuild c)
    (hs : b.steering = some s') : b.InStepWith c := by
  intro t ht key
  obtain rfl : s' = t := Option.some.inj (hs.symm.trans ht)
  rw [h, Resolver.rebuild_rebuild]

theorem apply_inStepWith (b : Box Text) (c : Fields) {attempt : Attempt}
    (h : attempt.router = .ok ()) : (b.apply c attempt).1.InStepWith c := by
  cases hs : b.steering with
  | none =>
    intro s hs'
    simp [apply, h, hs] at hs'
  | some s =>
    have hr := s.reload_resolver c attempt.now attempt.nft
    rw [apply, h, hs]
    dsimp only
    split
    · rename_i s' hl
      exact inStepWith_rebuilt (by rw [hl] at hr; exact hr) rfl
    · rename_i s' e hl
      exact inStepWith_rebuilt (by rw [hl] at hr; exact hr) rfl

theorem rollBack_inStepWith [DecidableEq Text] (b : Box Text) (before : Text)
    (restore : WriteOutcome) (again : Attempt) (message : String) (hb : b.InStepWith b.config) :
    (b.rollBack before restore again message).1.InStepWith b.config := by
  rw [rollBack]
  split
  · exact inStepWith_of_steering rfl hb
  · rename_i file _ _
    have ha : ({ b with file := file }.apply b.config again).1.InStepWith b.config := by
      cases h : again.router with
      | ok _ => exact apply_inStepWith _ _ h
      | error e =>
        rw [apply_refused _ h]
        exact inStepWith_of_steering rfl hb
    split
    · rename_i h
      rw [h] at ha
      exact ha
    · rename_i h
      rw [h] at ha
      exact ha

section Calls

variable [DecidableEq Text] {validate : Text → Option Config}

theorem edit_inStep {change : Change Text} {write : WriteOutcome} {attempt : Attempt}
    {restore : WriteOutcome} {again : Attempt} (hb : b.InStepWith b.config)
    (hg : (Call.edit change write attempt restore again).Taken validate b) :
    (b.edit validate change write attempt restore again).1.InStepWith
      (b.edit validate change write attempt restore again).1.config := by
  cases hi : b.incoming validate change with
  | none =>
    rw [edit]
    rcases editFile_quiet hi write with ⟨e, he⟩ | ⟨c, hc, he⟩
    · rw [he]
      exact hb
    · obtain ⟨text, ht, hv⟩ := editFile_ok he
      have hfile : text = b.file := by
        by_contra hne
        simp [incoming, ht, hne, hv] at hi
      have htable := hg.2 hi (hfile ▸ ht) c hc
      rw [he]
      simp only [Bool.false_eq_true, if_false]
      exact inStepWith_of_steering (b := b) rfl (hb.congr htable.symm)
  | some p =>
    obtain ⟨text, c⟩ := p
    obtain ⟨-, -, he⟩ := editFile_incoming hi write
    rw [edit, he]
    cases write with
    | refused e => exact hb
    | unsynced e => exact inStepWith_of_steering (b := b) rfl hb
    | replaced =>
      simp only [if_true]
      cases hr : attempt.router with
      | error e =>
        rw [apply_refused _ hr]
        have hroll := rollBack_inStepWith { b with file := text, host := none } b.file restore again
          e (inStepWith_of_steering (b := b) rfl hb)
        have hconfig := (rollBack_keeps { b with file := text, host := none } b.file restore again
          e).2
        dsimp only at hroll hconfig ⊢
        rw [hconfig]
        exact hroll
      | ok _ =>
        have ha := apply_inStepWith { b with file := text } (c.onNetwork b.config.network) hr
        have hk := (apply_keeps { b with file := text } (c.onNetwork b.config.network) attempt).2
        obtain ⟨steering, hs, hres⟩ := apply_taken { b with file := text }
          (c := c.onNetwork b.config.network) hr
        cases hp : apply { b with file := text } (c.onNetwork b.config.network) attempt with
        | mk after result =>
          rw [hp] at ha hk hres
          dsimp only at ha hk hres ⊢
          rcases hres with ⟨rfl, -⟩ | ⟨⟨e, rfl⟩, hrefills⟩
          · exact inStepWith_of_steering (b := after) rfl ha
          · rcases hg.1 _ hi rfl hr with hfill | htable
            · exact absurd hfill hrefills
            · dsimp only
              rw [hk]
              exact ha.congr htable

end Calls

end Box

namespace ListsBox

variable {Text : Type} {b : ListsBox Text}

theorem start_box (b : ListsBox Text) : b.start.box = b.box := by
  rw [start]
  split <;> rfl

theorem ask_box (b : ListsBox Text) (now asked : Rat) (refreshed : Refreshed) :
    (b.ask now asked refreshed).box = b.box := by
  rw [ask]
  split
  · rfl
  · split
    · dsimp only
      split
      · split <;> rfl
      · rfl
    · rfl

theorem prune_box (b : ListsBox Text) (outcome : Except OsError Unit) :
    (b.prune outcome).box = b.box := by
  rw [prune]
  split
  · rfl
  · split
    · dsimp only
      split
      · split <;> rfl
      · rfl
    · rfl

theorem handOver_inStep (hb : b.InStep) {now : Rat} {nft : String → NftOutcome}
    (hg : ∀ round, b.round = some round → round.phase = .handing →
      round.config.ruleTable = b.box.config.ruleTable) : (b.handOver now nft).InStep := by
  rw [handOver]
  split
  · rename_i round s hround hs
    split
    · rename_i hp
      have hr := ({ s with resolver := { s.resolver with lists := round.domains } } :
        Steering).reload_resolver round.config now nft
      have htable := hg round hround hp
      rw [Resolver.rebuild_table htable] at hr
      split
      · rename_i s' hl
        rw [Steering.setLists] at hl
        rw [hl] at hr
        exact Box.inStepWith_rebuilt hr rfl
      · rename_i s' e hl
        rw [Steering.setLists] at hl
        rw [hl] at hr
        exact Box.inStepWith_rebuilt hr rfl
    · exact hb
  · exact hb

variable [DecidableEq Text] {validate : Text → Option Config}

theorem step_inStep (hb : b.InStep) {e : ListsEvent Text} (hg : e.Fresh validate b) :
    (b.step validate e).InStep := by
  cases e with
  | call c =>
    cases c with
    | save change write =>
      have hk : (b.box.save validate change write).1.config = b.box.config ∧
          (b.box.save validate change write).1.steering = b.box.steering := by
        rw [Box.save]
        split <;> exact ⟨rfl, rfl⟩
      show (b.box.save validate change write).1.InStepWith
        (b.box.save validate change write).1.config
      rw [hk.1]
      exact Box.inStepWith_of_steering hk.2 hb
    | edit change write attempt restore again => exact Box.edit_inStep hb hg
  | start =>
    show b.start.box.InStepWith b.start.box.config
    rw [start_box]
    exact hb
  | ask now asked refreshed =>
    show (b.ask now asked refreshed).box.InStepWith (b.ask now asked refreshed).box.config
    rw [ask_box]
    exact hb
  | prune outcome =>
    show (b.prune outcome).box.InStepWith (b.prune outcome).box.config
    rw [prune_box]
    exact hb
  | handOver now nft => exact handOver_inStep hb hg

end ListsBox

theorem lists_round_in_step {Text : Type} [DecidableEq Text] {validate : Text → Option Config}
    {init b : ListsBox Text} (hi : init.InStep)
    (h : Guarded (ListsBox.step validate) (fun b e => e.Fresh validate b) init b) : b.InStep :=
  h.invariant ListsBox.InStep hi fun _ _ hs hg => ListsBox.step_inStep hs hg

def droppedList : String := "https://lists.example/ads.txt"

-- the list left config.yaml, its domains are still in use
def listsBox : ListsBox Document where
  box :=
    { siteBox with
      steering := some
        { ruleSteering with
          resolver := { ruleSteering.resolver with lists := Dict.empty.set droppedList [siteName] } } }

theorem listsBox_inStep : listsBox.InStep := by
  intro s hs key
  cases hs
  have h : (ruleSteering.resolver.rebuild siteConfig.toFields).index.entries =
      ruleSteering.resolver.index.entries := by decide +kernel
  exact congrArg (List.lookup key) h.symm

def unlearnMeanwhile : Call Document :=
  .edit unlearningRule .replaced (nftCalls .loaded) .replaced (nftCalls .loaded)

def removeMeanwhile : Call Document :=
  .edit (removeDomainRule "config.yaml" "site.example") .replaced (nftCalls .loaded) .replaced
    (nftCalls .loaded)

def callDuring (c : Call Document) : ListsBox Document :=
  ((listsBox.step Document.validate .start).step Document.validate (.call c)).step
    Document.validate (.prune (.ok ()))

def afterRound (c : Call Document) : ListsBox Document :=
  (callDuring c).step Document.validate (.handOver 0 fun _ => .loaded)

theorem unlearned_round_in_step : (afterRound unlearnMeanwhile).InStep := by
  have hedit : (ListsEvent.call unlearnMeanwhile).Fresh Document.validate
      (listsBox.step Document.validate .start) := by
    refine ⟨fun _ _ _ _ => .inl fun _ _ _ _ _ _ _ => rfl, fun hn => ?_⟩
    have hsome : (listsBox.start.box.incoming Document.validate unlearningRule).isSome = true := by
      decide +kernel
    exact absurd (hn ▸ hsome) (by simp)
  have hhand : (ListsEvent.handOver 0 fun _ => .loaded).Fresh Document.validate
      (callDuring unlearnMeanwhile) := by
    intro round hround _
    have hall : (callDuring unlearnMeanwhile).round.all (fun round => round.config.ruleTable =
        (callDuring unlearnMeanwhile).box.config.ruleTable) = true := by decide +kernel
    rw [hround, Option.all_some, decide_eq_true_iff] at hall
    exact hall
  have hstart : (ListsEvent.start : ListsEvent Document).Fresh Document.validate listsBox := trivial
  have hprune (b : ListsBox Document) :
      (ListsEvent.prune (.ok ())).Fresh Document.validate b := trivial
  have h0 : Guarded (ListsBox.step Document.validate) (fun b e => e.Fresh Document.validate b)
      listsBox listsBox := .start
  exact lists_round_in_step listsBox_inStep ((((h0.next _ hstart).next _ hedit).next _ (hprune _)).next _ hhand)

theorem removed_rule_returns : listsBox.InStep ∧ ¬ (afterRound removeMeanwhile).InStep := by
  refine ⟨listsBox_inStep, fun h => ?_⟩
  have hk : (afterRound removeMeanwhile).box.steering.any (fun s =>
      s.resolver.index.get? "site.example" ≠
        (s.resolver.rebuild (afterRound removeMeanwhile).box.config).index.get? "site.example") =
      true := by decide +kernel
  obtain ⟨s, hs, hne⟩ := Option.any_eq_true _ _ |>.mp hk
  rw [decide_eq_true_iff] at hne
  exact hne (h s hs "site.example")

end VibeDPN
