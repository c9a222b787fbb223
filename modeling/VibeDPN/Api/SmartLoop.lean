import VibeDPN.Api.Smart
import VibeDPN.Engine.QueryLog

namespace VibeDPN

open Text

def journalPerDevice : Nat := 300

def olderPages : Nat := 5

structure JournalEntry where
  time : Rat
  name : String
  qtype : String
  cached : Bool
  addresses : List String
  channel : String
  learnedFrom : Option String
deriving DecidableEq

abbrev DnsJournal := Dict String (List JournalEntry)

-- a deque with a limit forgets its oldest entries
def DnsJournal.add (journal : DnsJournal) (client : String) (entry : JournalEntry) : DnsJournal :=
  let entries := (journal.get? client).getD [] ++ [entry]
  journal.set client (entries.drop (entries.length - journalPerDevice))

def learningNames (c : Fields) : Dict String (String × Bool) :=
  match c.routing with
  | none => Dict.empty
  | some routing => Dict.empty.update (routing.domains.flatMap fun rule =>
      rule.names.map fun name => (name.val, (rule.domain.val, rule.learn)))

def lookupLabels (names : Dict String (String × Bool)) : List String → Option (String × Bool)
  | [] => none
  | label :: labels =>
    if labels = [] then none
    else
      match names.get? (join '.' (label :: labels)) with
      | some found => some found
      | none => lookupLabels names labels

def ruleOf (c : Fields) : RuleOf := fun name =>
  lookupLabels (learningNames c) (split '.' (indexKey name))

inductive LearnedSource where
  | time
  | cname
deriving DecidableEq

inductive StoreCall where
  | names
  | record (name : String) (source : LearnedSource)
  | remove (name : String)
deriving DecidableEq

inductive SmartError where
  | queryLog (message : String)
  | learned
  | resolver (message : String)
deriving DecidableEq

structure RoundEnv where
  now : Rat
  fetch : Option String → Except String (Option (List LogItem))
  nft : String → NftOutcome
  storeFails : StoreCall → Bool

-- learner: with whether it was made from the configuration config_now() gives
structure SmartLoop where
  config : Config
  learner : Option (Learner × Bool)
  steering : Steering
  store : Dict String String
  journal : DnsJournal
  cursor : Option String

-- beside what round() returns: the records it passed on, and every lesson of the learner
structure RoundResult where
  outcome : Except SmartError (List Lesson)
  observed : List LogRecord := []
  journaled : List LogRecord := []
  taught : List Lesson := []

namespace SmartLoop

def currentLearner (s : SmartLoop) : Learner :=
  match s.learner with
  | none => { ruleOf := ruleOf s.config.toFields }
  | some (l, true) => l
  | some (l, false) => Learner.adopt { ruleOf := ruleOf s.config.toFields } l

def refresh (s : SmartLoop) : SmartLoop := { s with learner := some (s.currentLearner, true) }

def teach (env : RoundEnv) (s : SmartLoop) : Lesson → SmartLoop × Except SmartError (Option String)
  | .learned name parent =>
    match s.steering.learn env.now name parent (env.nft name) with
    | (steering, .error e) => ({ s with steering := steering }, .error (.resolver e))
    | (steering, .ok false) => ({ s with steering := steering }, .ok none)
    | (steering, .ok true) =>
      if env.storeFails (.record name .time) then ({ s with steering := steering }, .error .learned)
      else ({ s with steering := steering, store := s.store.set name parent }, .ok (some parent))
  | .unlearned name =>
    let s := { s with steering := s.steering.unlearn name }
    if env.storeFails (.remove name) then (s, .error .learned)
    else ({ s with store := s.store.erase name }, .ok none)

def teachAll (env : RoundEnv) (s : SmartLoop) (learnedFrom : Option String) :
    List Lesson → SmartLoop × Except SmartError (Option String)
  | [] => (s, .ok learnedFrom)
  | lesson :: lessons =>
    match s.teach env lesson with
    | (s, .error e) => (s, .error e)
    | (s, .ok taught) => teachAll env s (taught.orElse fun _ => learnedFrom) lessons

def handleRecord (env : RoundEnv) (s : SmartLoop) (record : LogRecord) :
    SmartLoop × Except SmartError (List Lesson) :=
  -- the channel the query took, before this record teaches anything
  let channel := (s.steering.resolver.index.matchName record.event.name).getD "direct"
  let observed := s.currentLearner.observe record.event
  match teachAll env { s with learner := some (observed.1, true) } none observed.2 with
  | (s, .error e) => (s, .error e)
  | (s, .ok learnedFrom) =>
    ({ s with
        journal := DnsJournal.add s.journal record.event.client
          ⟨record.event.time, record.event.plainName, record.qtype, record.cached,
            record.addresses, channel, learnedFrom⟩
        cursor := some record.stamp }, .ok observed.2)

def handleAll (env : RoundEnv) (s : SmartLoop) : List LogRecord → SmartLoop × RoundResult
  | [] => (s, { outcome := .ok [] })
  | record :: records =>
    let lessons := (s.currentLearner.observe record.event).2
    match s.handleRecord env record with
    | (s, .error e) => (s, { outcome := .error e, observed := [record], taught := lessons })
    | (s, .ok found) =>
      let rest := handleAll env s records
      (rest.1,
        { outcome := rest.2.outcome.map (found ++ ·)
          observed := record :: rest.2.observed
          journaled := record :: rest.2.journaled
          taught := lessons ++ rest.2.taught })

-- a full page whose oldest record is still after the cursor: more is behind it
def morePages (env : RoundEnv) (cursor : String) : Nat → List LogRecord →
    Except String (List LogRecord)
  | 0, records => .ok records
  | pages + 1, records =>
    match records.getLast? with
    | none => .ok records
    | some last =>
      if pageLimit ≤ records.length then do
        let newer ← newerThan [last] (some cursor)
        if newer = [] then .ok records
        else do
          let body ← env.fetch (some last.stamp)
          let page ← parsePage body
          morePages env cursor pages (records ++ page)
      else .ok records

def newRecords (env : RoundEnv) (cursor : Option String) : Except String (List LogRecord) := do
  let body ← env.fetch none
  let page ← parsePage body
  let records ← match cursor with
    | none => .ok page
    | some stamp => morePages env stamp (olderPages - 1) page
  newerThan records cursor

def storeCname (env : RoundEnv) (c : Fields) (stored : List String) (store : Dict String String)
    (e : String × String) : Except (Dict String String × SmartError) (Dict String String) :=
  match ruleOf c e.2 with
  | none => .ok store
  | some rule =>
    if e.1 ∈ stored then .ok store
    else if env.storeFails (.record e.1 .cname) then .error (store, .learned)
    else .ok (store.set e.1 rule.1)

def storeCnames (env : RoundEnv) (s : SmartLoop) : SmartLoop × Option SmartError :=
  if env.storeFails .names then (s, some .learned)
  else
    match s.steering.resolver.cnames.entries.foldlM
      (storeCname env s.config.toFields s.store.keys) s.store with
    | .ok store => ({ s with store := store }, none)
    | .error (store, e) => ({ s with store := store }, some e)

def round (env : RoundEnv) (s : SmartLoop) : SmartLoop × RoundResult :=
  let s := s.refresh
  match newRecords env s.cursor with
  | .error e => (s, { outcome := .error (.queryLog e) })
  | .ok records =>
    let handled := handleAll env s records
    match handled.2.outcome with
    | .error _ => handled
    | .ok _ =>
      match handled.1.storeCnames env with
      | (s, some e) => (s, { handled.2 with outcome := .error e })
      | (s, none) => (s, handled.2)

def forget (s : SmartLoop) (storeFails : Bool) (name : String) :
    SmartLoop × Except SmartError Bool :=
  let s := s.refresh
  let s := { s with
    learner := some (s.currentLearner.forget name, true)
    steering := s.steering.unlearn name }
  if storeFails then (s, .error .learned)
  else ({ s with store := s.store.erase name }, .ok (s.store.get? name).isSome)

def startName (now : Rat) (nft : String → NftOutcome) (s : SmartLoop) (e : String × String) :
    Except (SmartLoop × SmartError) SmartLoop :=
  match s.steering.learn now e.1 e.2 (nft e.1) with
  | (steering, .error message) => .error ({ s with steering := steering }, .resolver message)
  | (steering, .ok false) => .ok { s with steering := steering }
  | (steering, .ok true) => .ok { s with
      steering := steering
      learner := some (s.currentLearner.remember e.1 e.2, true) }

def start (s : SmartLoop) (now : Rat) (nft : String → NftOutcome) (storeFails : Bool) : SmartLoop :=
  let s := s.refresh
  if storeFails then s
  else
    match (storeNames s.store).foldlM (startName now nft) s with
    | .ok s => s
    | .error (s, _) => s

def boot (c : Config) (store : Dict String String) : SmartLoop where
  config := c
  learner := none
  steering := ⟨{ index := RuleIndex.fromConfig c.toFields Dict.empty }, fun _ _ => none⟩
  store := store
  journal := Dict.empty
  cursor := none

end SmartLoop

structure SmartWorld where
  loop : SmartLoop
  observed : List LogRecord
  journaled : List LogRecord

inductive SmartStep where
  | resolve (now : Rat) (query : Message) (exchange : Except String Message) (outcome : NftOutcome)
  | edit (c : Config) (now : Rat) (nft : String → NftOutcome)
  | setLists (lists : FetchedLists) (now : Rat) (nft : String → NftOutcome)
  | round (env : RoundEnv)
  | forget (name : String) (storeFails : Bool)
  | restart (now : Rat) (nft : String → NftOutcome) (storeFails : Bool)

namespace SmartWorld

def boot (c : Config) (store : Dict String String) : SmartWorld :=
  ⟨SmartLoop.boot c store, [], []⟩

def afterEdit (s : SmartLoop) (c : Config) (now : Rat) (nft : String → NftOutcome) : SmartLoop :=
  { s with
    config := c
    learner := s.learner.map fun l => (l.1, false)
    steering := (s.steering.reload c.toFields now nft).1 }

def step (w : SmartWorld) : SmartStep → SmartWorld
  | .resolve now query exchange outcome =>
    { w with loop :=
      { w.loop with steering := (w.loop.steering.resolve now query exchange outcome).1 } }
  | .edit c now nft => { w with loop := afterEdit w.loop c now nft }
  | .setLists lists now nft =>
    { w with loop := { w.loop with
        steering := (w.loop.steering.setLists w.loop.config.toFields lists now nft).1 } }
  | .round env =>
    let result := w.loop.round env
    { loop := result.1
      observed := w.observed ++ result.2.observed
      journaled := w.journaled ++ result.2.journaled }
  | .forget name storeFails => { w with loop := (w.loop.forget storeFails name).1 }
  | .restart now nft storeFails =>
    { w with loop := (SmartLoop.boot w.loop.config w.loop.store).start now nft storeFails }

end SmartWorld

end VibeDPN
