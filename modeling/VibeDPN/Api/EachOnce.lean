import VibeDPN.Api.PageWalk

namespace VibeDPN

open Text Retries

namespace SmartLoop

theorem teach_cursor (env : RoundEnv) (s : SmartLoop) (lesson : Lesson) :
    (s.teach env lesson).1.cursor = s.cursor := by
  cases lesson with
  | learned name parent =>
    simp only [teach]
    split
    · rfl
    · rfl
    · split
      · rfl
      · rfl
  | unlearned name =>
    simp only [teach]
    split
    · rfl
    · rfl

theorem teachAll_cursor (env : RoundEnv) (lessons : List Lesson) (s : SmartLoop)
    (learnedFrom : Option String) : (teachAll env s learnedFrom lessons).1.cursor = s.cursor := by
  induction lessons generalizing s learnedFrom with
  | nil => rfl
  | cons lesson lessons ih =>
    have ht := teach_cursor env s lesson
    rw [teachAll]
    split
    next s' e he =>
      rw [he] at ht
      exact ht
    next s' taught he =>
      rw [he] at ht
      exact (ih s' _).trans ht

theorem handleRecord_cursor (env : RoundEnv) (s : SmartLoop) (record : LogRecord) :
    (s.handleRecord env record).1.cursor = match (s.handleRecord env record).2 with
      | .error _ => s.cursor
      | .ok _ => some record.stamp := by
  have ht := teachAll_cursor env (s.currentLearner.observe record.event).2
    { s with learner := some ((s.currentLearner.observe record.event).1, true) } none
  rw [handleRecord]
  split
  next s' e he =>
    rw [he] at ht
    exact ht
  next => rfl

theorem handleAll_part (env : RoundEnv) (records : List LogRecord) (s : SmartLoop) :
    ∃ rest failing, records = (handleAll env s records).2.journaled ++ rest ∧
      (handleAll env s records).2.observed =
        (handleAll env s records).2.journaled ++ failing.toList ∧
      (∀ x ∈ failing, rest.head? = some x) ∧ (failing = none → rest = []) ∧
      (∀ lessons, (handleAll env s records).2.outcome = .ok lessons → failing = none) ∧
      (handleAll env s records).1.cursor =
        (((handleAll env s records).2.journaled.getLast?).map LogRecord.stamp).or s.cursor := by
  induction records generalizing s with
  | nil => exact ⟨[], none, by simp [handleAll]⟩
  | cons record records ih =>
    have hc := handleRecord_cursor env s record
    rw [handleAll]
    dsimp only
    cases hr : s.handleRecord env record with
    | mk s' outcome =>
      rw [hr] at hc
      cases outcome with
      | error e =>
        have hc : s'.cursor = s.cursor := hc
        exact ⟨record :: records, some record, by simp [hc]⟩
      | ok found =>
        obtain ⟨rest, failing, hsplit, hobserved, hhead, hnone, hok, hcursor⟩ := ih s'
        refine ⟨rest, failing, ?_, ?_, hhead, hnone, ?_, ?_⟩
        · exact congrArg (record :: ·) hsplit
        · exact congrArg (record :: ·) hobserved
        · intro lessons hl
          cases ho : (handleAll env s' records).2.outcome with
          | error e =>
            simp only [ho] at hl
            cases hl
          | ok lessons' => exact hok lessons' ho
        · have hc : s'.cursor = some record.stamp := hc
          simp only [hcursor, hc, List.getLast?_cons]
          cases (handleAll env s' records).2.journaled.getLast? with
          | none => rfl
          | some last => rfl

theorem storeCnames_cursor (env : RoundEnv) (s : SmartLoop) :
    (s.storeCnames env).1.cursor = s.cursor := by
  rw [storeCnames]
  split
  · rfl
  · split
    · rfl
    · rfl

theorem round_cases (env : RoundEnv) (s : SmartLoop) :
    ((∃ e, newRecords env s.cursor = .error e) ∧ (s.round env).1.cursor = s.cursor ∧
        (s.round env).2.observed = [] ∧ (s.round env).2.journaled = [] ∧
        ∀ lessons, (s.round env).2.outcome ≠ .ok lessons) ∨
      ∃ records, newRecords env s.cursor = .ok records ∧
        (s.round env).1.cursor = (handleAll env s.refresh records).1.cursor ∧
        (s.round env).2.observed = (handleAll env s.refresh records).2.observed ∧
        (s.round env).2.journaled = (handleAll env s.refresh records).2.journaled ∧
        ∀ lessons, (s.round env).2.outcome = .ok lessons →
          (handleAll env s.refresh records).2.outcome = .ok lessons := by
  have hcursor : s.refresh.cursor = s.cursor := rfl
  rw [round]
  dsimp only
  rw [hcursor]
  cases hn : newRecords env s.cursor with
  | error e => exact .inl ⟨⟨e, rfl⟩, rfl, rfl, rfl, fun _ h => nomatch h⟩
  | ok records =>
    refine .inr ⟨records, rfl, ?_⟩
    dsimp only
    cases ho : (handleAll env s.refresh records).2.outcome with
    | error e => exact ⟨rfl, rfl, rfl, fun lessons h => by rw [ho] at h; exact h⟩
    | ok found =>
      have hs := storeCnames_cursor env (handleAll env s.refresh records).1
      dsimp only
      split
      next s' e he =>
        rw [he] at hs
        exact ⟨hs, rfl, rfl, fun lessons h => nomatch h⟩
      next s' he =>
        rw [he] at hs
        exact ⟨hs, rfl, rfl, fun lessons h => by rw [ho] at h; exact h⟩

end SmartLoop

structure LoggedWorld extends SmartWorld where
  log : QueryLog

inductive LogStep where
  | logged (item : DatedItem)
  | smart (step : SmartStep)

namespace LoggedWorld

def boot (c : Config) (store : Dict String String) : LoggedWorld :=
  ⟨SmartWorld.boot c store, {}⟩

def step (w : LoggedWorld) : LogStep → LoggedWorld
  | .logged item => { w with log := w.log.add item }
  | .smart step => { w with toSmartWorld := w.toSmartWorld.step step }

def waiting (w : LoggedWorld) : List LogRecord :=
  match w.loop.cursor with
  | none => w.log.records
  | some stamp => (w.log.after stamp).filterMap DatedItem.record?

-- AdGuard logs each entry later than all before it, and a poll is served from the log
def Relied (w : LoggedWorld) : LogStep → Prop
  | .logged item => ∀ x ∈ w.log.items, x.micros < item.micros
  | .smart (.round env) => w.log.Serves env
  | _ => True

-- a poll finds no more new entries than its pages hold: a page may hold any, several pages only
-- entries with a usable question
def Caught (w : LoggedWorld) : LogStep → Prop
  | .smart (.round _) => ∀ stamp ∈ w.loop.cursor,
      (w.log.after stamp).length ≤ pageLimit ∨
        (w.log.after stamp).length ≤ olderPages * pageLimit ∧
          ∀ x ∈ w.log.after stamp, x.record?.isSome
  | .smart (.restart _ _ _) => False
  | _ => True

theorem waiting_eq {w : LoggedWorld} (hapart : w.log.Apart) {old fresh : List DatedItem}
    {c : DatedItem} (hc : w.loop.cursor = some c.item.time)
    (hitems : w.log.items = old ++ c :: fresh) :
    w.waiting = fresh.filterMap DatedItem.record? := by
  simp only [waiting, hc]
  rw [QueryLog.after_eq hapart hitems]

theorem apart_add {w : LoggedWorld} (h : w.log.Apart) {item : DatedItem}
    (hg : Relied w (.logged item)) : (w.log.add item).Apart := by
  rw [QueryLog.Apart, QueryLog.add, List.pairwise_append]
  exact ⟨h, List.pairwise_singleton _ _, fun x hx y hy => List.mem_singleton.mp hy ▸ hg x hx⟩

structure Pointed (w : LoggedWorld) : Prop where
  apart : w.log.Apart
  cursor : ∀ stamp ∈ w.loop.cursor, ∃ x ∈ w.log.items, x.item.time = stamp

theorem start_cursor (s : SmartLoop) (now : Rat) (nft : String → NftOutcome) (storeFails : Bool) :
    (s.start now nft storeFails).cursor = s.cursor := by
  rw [SmartLoop.start]
  split
  · rfl
  · obtain ⟨hok, herr⟩ := foldlM_invariant (f := SmartLoop.startName now nft)
      (P := fun t : SmartLoop => t.cursor = s.cursor) (storeNames s.refresh.store)
      (fun t e _ ht after hafter => by
        rw [SmartLoop.startName] at hafter
        split at hafter
        · cases hafter
        · cases hafter
          exact ht
        · cases hafter
          exact ht)
      (fun t e _ ht after hafter => by
        rw [SmartLoop.startName] at hafter
        split at hafter
        · cases hafter
          exact ht
        · cases hafter
        · cases hafter)
      (s := s.refresh) rfl
    split
    next t ht => exact hok t ht
    next t e ht => exact herr (t, e) ht

theorem forget_cursor (s : SmartLoop) (storeFails : Bool) (name : String) :
    (s.forget storeFails name).1.cursor = s.cursor := by
  rw [SmartLoop.forget]
  split
  · rfl
  · rfl

theorem pointed_round {w : LoggedWorld} (h : Pointed w) {env : RoundEnv} (hv : w.log.Serves env) :
    Pointed (w.step (.smart (.round env))) := by
  refine ⟨h.apart, fun stamp hs => ?_⟩
  rcases SmartLoop.round_cases env w.loop with ⟨-, hc, -⟩ | ⟨records, hn, hc, -⟩
  · exact h.cursor stamp (hc ▸ hs)
  · obtain ⟨rest, failing, hsplit, -, -, -, -, hcursor⟩ :=
      SmartLoop.handleAll_part env records w.loop.refresh
    have hs : stamp ∈ (w.loop.round env).1.cursor := hs
    rw [hc, hcursor] at hs
    cases hl : (SmartLoop.handleAll env w.loop.refresh records).2.journaled.getLast? with
    | none =>
      rw [hl] at hs
      exact h.cursor stamp hs
    | some last =>
      rw [hl] at hs
      obtain rfl : last.stamp = stamp := Option.some.inj hs
      have hmem : last ∈ records := by
        rw [hsplit]
        exact List.mem_append_left _ (List.mem_of_getLast? hl)
      obtain ⟨x, hx, hr⟩ :=
        List.mem_filterMap.mp (SmartLoop.newRecords_mem hv h.apart hn last hmem)
      exact ⟨x, hx, (record_stamp hr).1.symm⟩

theorem pointed_step {w : LoggedWorld} (h : Pointed w) (e : LogStep) (hg : Relied w e) :
    Pointed (w.step e) := by
  cases e with
  | logged item =>
    refine ⟨apart_add h.apart hg, fun stamp hs => ?_⟩
    obtain ⟨x, hx, ht⟩ := h.cursor stamp hs
    exact ⟨x, List.mem_append_left _ hx, ht⟩
  | smart step =>
    cases step with
    | resolve now query exchange outcome => exact ⟨h.apart, h.cursor⟩
    | edit c now nft => exact ⟨h.apart, h.cursor⟩
    | setLists lists now nft => exact ⟨h.apart, h.cursor⟩
    | round env => exact pointed_round h hg
    | forget name storeFails =>
      refine ⟨h.apart, fun stamp hs => h.cursor stamp ?_⟩
      rwa [LoggedWorld.step, SmartWorld.step, forget_cursor] at hs
    | restart now nft storeFails =>
      refine ⟨h.apart, fun stamp hs => ?_⟩
      rw [LoggedWorld.step, SmartWorld.step, start_cursor] at hs
      cases hs

-- what was logged, given to the learner and journaled since, and the record that failed last
structure Tally (w₀ w : LoggedWorld) (added : List DatedItem) (given handled : List LogRecord)
    (failing : Option LogRecord) : Prop where
  items : w.log.items = w₀.log.items ++ added
  observed : w.observed = w₀.observed ++ given
  journaled : w.journaled = w₀.journaled ++ handled
  given : Given given handled failing
  failing : ∀ x ∈ failing, w.waiting.head? = some x
  conserved : handled ++ w.waiting = w₀.waiting ++ added.filterMap DatedItem.record?

structure Tallied (w₀ w : LoggedWorld) : Prop where
  apart : w.log.Apart
  pointed : ∃ x ∈ w.log.items, w.loop.cursor = some x.item.time
  tally : ∃ added given handled failing, Tally w₀ w added given handled failing

namespace Tallied

variable {w₀ w : LoggedWorld}

theorem kept (h : Tallied w₀ w) (next : LoggedWorld) (hlog : next.log = w.log)
    (hc : next.loop.cursor = w.loop.cursor) (ho : next.observed = w.observed)
    (hj : next.journaled = w.journaled) : Tallied w₀ next := by
  have hw : next.waiting = w.waiting := by rw [waiting, waiting, hlog, hc]
  obtain ⟨hapart, hpointed, added, given, handled, failing, ht⟩ := h
  refine ⟨hlog ▸ hapart, by rwa [hlog, hc], added, given, handled, failing, ?_⟩
  exact ⟨hlog ▸ ht.items, ho ▸ ht.observed, hj ▸ ht.journaled, ht.given, hw ▸ ht.failing,
    hw ▸ ht.conserved⟩

theorem logged (h : Tallied w₀ w) {item : DatedItem} (hg : Relied w (.logged item)) :
    Tallied w₀ (w.step (.logged item)) := by
  obtain ⟨hapart, ⟨c, hmem, hc⟩, added, given, handled, failing, ht⟩ := h
  have hnew : (w.step (.logged item)).log.Apart := apart_add hapart hg
  have hadd : (w.log.add item).items = w.log.items ++ [item] := rfl
  obtain ⟨old, fresh, hitems⟩ := List.append_of_mem hmem
  have hnext : (w.step (.logged item)).log.items = old ++ c :: (fresh ++ [item]) := by
    rw [step, hadd, hitems]
    simp
  have hw : (w.step (.logged item)).waiting = w.waiting ++ [item].filterMap DatedItem.record? := by
    rw [waiting_eq (w := w.step (.logged item)) hnew hc hnext, waiting_eq hapart hc hitems,
      List.filterMap_append]
  refine ⟨hnew, ⟨c, by simp [hnext], hc⟩, added ++ [item], given, handled, failing, ?_⟩
  refine ⟨?_, ht.observed, ht.journaled, ht.given, ?_, ?_⟩
  · rw [step, hadd, ht.items, List.append_assoc]
  · intro x hx
    rw [hw, List.head?_append, ht.failing x hx]
    rfl
  · rw [hw, ← List.append_assoc, ht.conserved, List.filterMap_append, List.append_assoc]

theorem waiting_round (hapart : w.log.Apart) {c : DatedItem} {old fresh : List DatedItem}
    (hc : w.loop.cursor = some c.item.time) (hitems : w.log.items = old ++ c :: fresh)
    (next : LoggedWorld) (hlog : next.log = w.log) {done rest : List LogRecord}
    (hsplit : fresh.filterMap DatedItem.record? = done ++ rest)
    (hnext : next.loop.cursor = (done.getLast?.map LogRecord.stamp).or w.loop.cursor) :
    next.waiting = rest ∧ ∃ x ∈ next.log.items, next.loop.cursor = some x.item.time := by
  cases done using List.reverseRecOn with
  | nil =>
    have hcursor : next.loop.cursor = some c.item.time := hnext.trans hc
    have hitems' : next.log.items = old ++ c :: fresh := by rw [hlog, hitems]
    exact ⟨(waiting_eq (hlog ▸ hapart) hcursor hitems').trans hsplit, c, by simp [hitems'],
      hcursor⟩
  | append_singleton done last =>
    rw [List.append_assoc, List.singleton_append] at hsplit
    obtain ⟨l₁, l₂, rfl, -, hlast⟩ := List.filterMap_eq_append_iff.mp hsplit
    obtain ⟨junk, x, after, rfl, -, hx, hrest⟩ := List.filterMap_eq_cons_iff.mp hlast
    have hcursor : next.loop.cursor = some x.item.time := by
      rw [hnext, List.getLast?_concat, ← (record_stamp hx).1]
      rfl
    have hitems' : next.log.items = (old ++ c :: (l₁ ++ junk)) ++ x :: after := by
      rw [hlog, hitems]
      simp
    exact ⟨(waiting_eq (hlog ▸ hapart) hcursor hitems').trans hrest, x, by simp [hitems'],
      hcursor⟩

theorem round (h : Tallied w₀ w) {env : RoundEnv} (hv : w.log.Serves env)
    (hg : Caught w (.smart (.round env))) :
    Tallied w₀ (w.step (.smart (.round env))) ∧
      ∀ lessons, (w.loop.round env).2.outcome = .ok lessons →
        (w.step (.smart (.round env))).waiting = [] := by
  have hkept := h.kept (w.step (.smart (.round env))) rfl
  obtain ⟨hapart, ⟨c, hmem, hc⟩, added, given, handled, failing, ht⟩ := h
  rcases SmartLoop.round_cases env w.loop with
    ⟨-, hcursor, ho, hj, hfails⟩ | ⟨records, hn, hcursor, ho, hj, hok⟩
  · refine ⟨hkept hcursor ?_ ?_, fun lessons hl => absurd hl (hfails lessons)⟩
    · exact (congrArg (w.observed ++ ·) ho).trans (List.append_nil _)
    · exact (congrArg (w.journaled ++ ·) hj).trans (List.append_nil _)
  · obtain ⟨old, fresh, hitems⟩ := List.append_of_mem hmem
    have hafter := QueryLog.after_eq hapart hitems
    have hrecords : records = fresh.filterMap DatedItem.record? := by
      have hcaught := hg c.item.time hc
      rw [hafter] at hcaught
      rw [hc] at hn
      exact SmartLoop.newRecords_fresh hv hapart hitems hcaught hn
    have hwaiting := waiting_eq hapart hc hitems
    obtain ⟨rest, next, hsplit, hobserved, hhead, hnone, hdone, hlast⟩ :=
      SmartLoop.handleAll_part env records w.loop.refresh
    rw [← hcursor, ← hj] at hlast
    rw [← ho, ← hj] at hobserved
    rw [← hj] at hsplit
    obtain ⟨hrest, hpointed⟩ := waiting_round hapart hc hitems
      (w.step (.smart (.round env))) rfl (hrecords ▸ hsplit) hlast
    refine ⟨⟨hapart, hpointed, added, given ++ (w.loop.round env).2.observed,
      handled ++ (w.loop.round env).2.journaled, next, ht.items, ?_, ?_, ?_, ?_, ?_⟩,
      ?_⟩
    · rw [← List.append_assoc, ← ht.observed]
      rfl
    · rw [← List.append_assoc, ← ht.journaled]
      rfl
    · rw [hobserved]
      refine ht.given.batch fun x hx => ?_
      have hx := ht.failing x hx
      rw [hwaiting, ← hrecords, hsplit] at hx
      cases hd : (w.loop.round env).2.journaled with
      | cons r done =>
        rw [hd] at hx
        exact hx
      | nil =>
        rw [hd, List.nil_append] at hx
        cases next with
        | some y => exact (hhead y rfl).symm.trans hx
        | none =>
          rw [hnone rfl] at hx
          cases hx
    · rw [hrest]
      exact hhead
    · rw [hrest, List.append_assoc, ← hsplit, hrecords, ← hwaiting, ht.conserved]
    · intro lessons hl
      rw [hrest]
      exact hnone (hdone lessons (hok lessons hl))

theorem step (h : Tallied w₀ w) (e : LogStep) (hr : Relied w e) (hg : Caught w e) :
    Tallied w₀ (w.step e) := by
  cases e with
  | logged item => exact h.logged hr
  | smart step =>
    cases step with
    | resolve now query exchange outcome => exact h.kept _ rfl rfl rfl rfl
    | edit c now nft => exact h.kept _ rfl rfl rfl rfl
    | setLists lists now nft => exact h.kept _ rfl rfl rfl rfl
    | round env => exact (h.round hr hg).1
    | forget name storeFails =>
      exact h.kept _ rfl (forget_cursor w.loop storeFails name) rfl rfl
    | restart now nft storeFails => exact hg.elim

end Tallied

-- from the first poll on, whatever fails: the journal and what waits are together every usable
-- record once, in order; the learner meets them in that order, one again only after it failed
theorem each_once {c : Config} {store : Dict String String} {before events : List LogStep}
    {w₀ w : LoggedWorld} (hbefore : EachStep step Relied (boot c store) before)
    (h₀ : before.foldl step (boot c store) = w₀) (hfirst : w₀.loop.cursor ≠ none)
    (hrun : EachStep step (fun w e => Relied w e ∧ Caught w e) w₀ events)
    (hw : events.foldl step w₀ = w) :
    (∃ added given handled failing, Tally w₀ w added given handled failing) ∧
      ∀ env, w.log.Serves env → Caught w (.smart (.round env)) → ∀ lessons,
        (w.loop.round env).2.outcome = .ok lessons →
          (w.step (.smart (.round env))).waiting = [] := by
  obtain ⟨stamp, hstamp⟩ := Option.ne_none_iff_exists'.mp hfirst
  have hpointed : Pointed w₀ := by
    rw [← h₀]
    exact hbefore.invariant (fun w e _ h hg => pointed_step h e hg)
      ⟨List.Pairwise.nil, fun stamp hs => nomatch hs⟩
  obtain ⟨x, hx, hxs⟩ := hpointed.cursor stamp hstamp
  have htallied : Tallied w₀ w := by
    rw [← hw]
    refine hrun.invariant (fun w e _ h hg => h.step e hg.1 hg.2) ?_
    refine ⟨hpointed.apart, ⟨x, hx, by rw [hxs, hstamp]⟩, [], [], [], none, ?_⟩
    exact ⟨by simp, by simp, by simp, .start, fun x hx => (nomatch hx), by simp⟩
  exact ⟨htallied.tally, fun env hv hg lessons hl => (htallied.round hv hg).2 lessons hl⟩

theorem first_dated : nanoTime "2026-09-14T07:53:55.818445813Z" = some 1789372435818445813 := by
  decide

theorem second_dated : nanoTime "2026-09-14T07:53:55.9Z" = some 1789372435900000000 := by
  decide

def firstAsked : DatedItem where
  item :=
    { client := "10.77.0.5", time := "2026-09-14T07:53:55.818445813Z"
      question := some ("site.example", "A") }
  nanos := 1789372435818445813
  dated := first_dated

def secondAsked : DatedItem where
  item :=
    { client := "10.77.0.5", time := "2026-09-14T07:53:55.9Z"
      question := some ("cdn.example", "A") }
  nanos := 1789372435900000000
  dated := second_dated

def served (log : QueryLog) (now : Rat) (storeFails : Bool) : RoundEnv where
  now := now
  fetch := fun cutoff => .ok (some (log.page cutoff))
  nft := fun _ => .loaded
  storeFails := fun _ => storeFails

theorem served_serves (log : QueryLog) (now : Rat) (storeFails : Bool) :
    log.Serves (served log now storeFails) :=
  ⟨fun _ _ h => (Except.ok.inj h).symm⟩

def firstSteps : List LogStep :=
  [.logged firstAsked, .smart (.round (served ⟨[firstAsked]⟩ 1 false))]

def firstPolled : LoggedWorld := firstSteps.foldl step (boot oneSite Dict.empty)

-- the name learned from the second record cannot be stored, then it can
def storeDown : List LogStep :=
  [.logged secondAsked, .smart (.round (served ⟨[firstAsked, secondAsked]⟩ 2 true)),
    .smart (.round (served ⟨[firstAsked, secondAsked]⟩ 3 false))]

theorem first_relied : EachStep step Relied (boot oneSite Dict.empty) firstSteps :=
  ⟨fun _ hx => (nomatch hx), served_serves _ _ _, trivial⟩

theorem first_log : firstPolled.log.items = [firstAsked] := rfl

theorem second_later : Relied firstPolled (.logged secondAsked) := by
  intro x hx
  rw [first_log] at hx
  rw [List.mem_singleton.mp hx]
  decide

theorem caught_of_short {w : LoggedWorld} (h : w.log.items.length ≤ pageLimit) (env : RoundEnv) :
    Caught w (.smart (.round env)) := fun _ _ => .inl ((List.length_filter_le _ _).trans h)

theorem store_down_once : ∃ added given handled failing,
    Tally firstPolled (storeDown.foldl step firstPolled) added given handled failing := by
  have hfirst : firstPolled.loop.cursor ≠ none := by decide
  have hlog : (firstPolled.step (.logged secondAsked)).log.items.length ≤ pageLimit := by
    rw [step, QueryLog.add, first_log]
    decide
  have hrun : EachStep step (fun w e => Relied w e ∧ Caught w e) firstPolled storeDown :=
    ⟨⟨second_later, trivial⟩, ⟨served_serves _ _ _, caught_of_short hlog _⟩,
      ⟨served_serves _ _ _, caught_of_short (w := (firstPolled.step (.logged secondAsked)).step
        (.smart (.round _))) hlog _⟩, trivial⟩
  exact (each_once first_relied rfl hfirst hrun rfl).1

end LoggedWorld

end VibeDPN
