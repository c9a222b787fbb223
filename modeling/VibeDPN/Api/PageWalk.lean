import VibeDPN.Api.SmartLoop
import VibeDPN.Lib.Retries
import VibeDPN.Lib.Runs

namespace VibeDPN

open Text Retries

def DatedItem.micros (x : DatedItem) : Int := x.nanos / 1000

def DatedItem.record? (x : DatedItem) : Option LogRecord :=
  x.item.question.map fun question =>
    { event := { client := x.item.client, name := question.1, time := (x.micros : Rat) / 1000000 }
      stamp := x.item.time
      qtype := question.2
      cached := x.item.cached
      addresses := x.item.addresses }

theorem parseItem_dated (x : DatedItem) : parseItem x.item = .ok x.record? := by
  have ht := micro_of_nano x.dated
  rw [parseItem, DatedItem.record?]
  cases x.item.question with
  | none => rfl
  | some question =>
    simp only [ht]
    rfl

theorem record_stamp {x : DatedItem} {r : LogRecord} (h : x.record? = some r) :
    r.stamp = x.item.time ∧ r.event.time = (x.micros : Rat) / 1000000 := by
  obtain ⟨question, -, rfl⟩ := Option.map_eq_some_iff.mp h
  exact ⟨rfl, rfl⟩

theorem parsePage_dated (items : List DatedItem) :
    parsePage (some (items.map DatedItem.item)) = .ok (items.filterMap DatedItem.record?) := by
  have hall : (items.map DatedItem.item).mapM parseItem = .ok (items.map DatedItem.record?) := by
    induction items with
    | nil => rfl
    | cons x items ih =>
      rw [List.map_cons, List.mapM_cons, parseItem_dated, ih]
      rfl
  rw [parsePage]
  simp only [hall]
  show Except.ok ((items.map DatedItem.record?).filterMap id) = _
  rw [List.filterMap_map]
  rfl

structure QueryLog where
  items : List DatedItem := []

namespace QueryLog

variable {log : QueryLog}

def add (log : QueryLog) (item : DatedItem) : QueryLog := ⟨log.items ++ [item]⟩

def olderThan (olderThan : Option String) (item : DatedItem) : Bool :=
  match olderThan with
  | none => true
  | some stamp => (nanoTime stamp).any fun nanos => item.nanos < nanos

-- newest first, and only strictly older ones where a time is given
def page (log : QueryLog) (cutoff : Option String) : List LogItem :=
  ((log.items.filter (olderThan cutoff)).reverse.take pageLimit).map DatedItem.item

-- what AdGuard is relied on for: a page that comes holds the newest entries older than the cutoff
structure Serves (log : QueryLog) (env : RoundEnv) : Prop where
  pages : ∀ cutoff body, env.fetch cutoff = .ok body → body = some (log.page cutoff)

def records (log : QueryLog) : List LogRecord := log.items.filterMap DatedItem.record?

def after (log : QueryLog) (stamp : String) : List DatedItem :=
  log.items.filter fun x => (nanoTime stamp).any fun nanos => nanos < x.nanos

-- each entry is later than all before it, in microseconds
def Apart (log : QueryLog) : Prop := log.items.Pairwise fun a b => a.micros < b.micros

theorem parsePage_page (log : QueryLog) (cutoff : Option String) :
    parsePage (some (log.page cutoff)) =
      .ok (((log.items.filter (olderThan cutoff)).rtake pageLimit).filterMap
        DatedItem.record?).reverse := by
  rw [page, parsePage_dated, List.rtake_eq_reverse_take_reverse, List.filterMap_reverse,
    List.reverse_reverse]

theorem nanos_lt {a b : DatedItem} (h : a.micros < b.micros) : a.nanos < b.nanos := by
  simp only [DatedItem.micros] at h
  omega

theorem parts (hapart : log.Apart) {a b : List DatedItem} {x : DatedItem}
    (h : log.items = a ++ x :: b) :
    (∀ y ∈ a, y.nanos < x.nanos) ∧ ∀ y ∈ b, x.nanos < y.nanos := by
  have hr := hapart
  rw [Apart, h, List.pairwise_append, List.pairwise_cons] at hr
  exact ⟨fun y hy => nanos_lt (hr.2.2 y hy x (by simp)), fun y hy => nanos_lt (hr.2.1.1 y hy)⟩

theorem filter_older (hapart : log.Apart) {a b : List DatedItem} {x : DatedItem}
    (h : log.items = a ++ x :: b) : log.items.filter (olderThan (some x.item.time)) = a := by
  obtain ⟨ha, hb⟩ := parts hapart h
  rw [h, List.filter_append, List.filter_eq_self.mpr, List.filter_cons_of_neg,
    List.filter_eq_nil_iff.mpr, List.append_nil]
  · intro y hy
    have := hb y hy
    simp only [olderThan, x.dated, Option.any_some, decide_eq_true_eq]
    omega
  · simp [olderThan, x.dated]
  · intro y hy
    simpa [olderThan, x.dated] using ha y hy

theorem after_eq (hapart : log.Apart) {a b : List DatedItem} {x : DatedItem}
    (h : log.items = a ++ x :: b) : log.after x.item.time = b := by
  obtain ⟨ha, hb⟩ := parts hapart h
  rw [after, h, List.filter_append, List.filter_eq_nil_iff.mpr, List.nil_append,
    List.filter_cons_of_neg, List.filter_eq_self.mpr]
  · intro y hy
    simpa [x.dated] using hb y hy
  · simp [x.dated]
  · intro y hy
    have := ha y hy
    simp only [x.dated, Option.any_some, decide_eq_true_eq]
    omega

end QueryLog

namespace SmartLoop

variable {env : RoundEnv} {log : QueryLog} {stamp : String} {pages : Nat}

theorem fetched (hv : log.Serves env) {cutoff : Option String} {body : Option (List LogItem)}
    {page : List LogRecord} (hf : env.fetch cutoff = .ok body) (hp : parsePage body = .ok page) :
    page = (((log.items.filter (QueryLog.olderThan cutoff)).rtake pageLimit).filterMap
      DatedItem.record?).reverse := by
  rw [hv.pages cutoff body hf, QueryLog.parsePage_page] at hp
  exact (Except.ok.inj hp).symm

theorem first_page (hv : log.Serves env) {body : Option (List LogItem)} {page : List LogRecord}
    (hf : env.fetch none = .ok body) (hp : parsePage body = .ok page) :
    page = ((log.items.rtake pageLimit).filterMap DatedItem.record?).reverse := by
  have hall : log.items.filter (QueryLog.olderThan none) = log.items :=
    List.filter_eq_self.mpr fun _ _ => rfl
  rw [fetched hv hf hp, hall]

theorem morePages_cases {records found : List LogRecord}
    (h : morePages env stamp (pages + 1) records = .ok found) :
    (found = records ∧ (records = [] ∨ records.length < pageLimit ∨
        ∃ last, records.getLast? = some last ∧ newerThan [last] (some stamp) = .ok [])) ∨
      ∃ last body page, records.getLast? = some last ∧ env.fetch (some last.stamp) = .ok body ∧
        parsePage body = .ok page ∧ morePages env stamp pages (records ++ page) = .ok found := by
  rw [morePages] at h
  cases hl : records.getLast? with
  | none =>
    rw [hl] at h
    cases h
    exact .inl ⟨rfl, .inl (List.getLast?_eq_none_iff.mp hl)⟩
  | some last =>
    simp only [hl] at h
    by_cases hlen : pageLimit ≤ records.length
    · rw [if_pos hlen] at h
      obtain ⟨newer, hn, h⟩ := bind_ok h
      by_cases he : newer = []
      · rw [if_pos he] at h
        cases h
        exact .inl ⟨rfl, .inr (.inr ⟨last, rfl, he ▸ hn⟩)⟩
      · rw [if_neg he] at h
        obtain ⟨body, hb, h⟩ := bind_ok h
        obtain ⟨page, hp, h⟩ := bind_ok h
        exact .inr ⟨last, body, page, rfl, hb, hp, h⟩
    · rw [if_neg hlen] at h
      cases h
      exact .inl ⟨rfl, .inr (.inl (by omega))⟩

theorem next_page (hv : log.Serves env) (hapart : log.Apart) {seen : List LogRecord}
    (hs : seen <:+ log.records) {last : LogRecord} (hl : seen.reverse.getLast? = some last)
    {body : Option (List LogItem)} {page : List LogRecord} (hf : env.fetch (some last.stamp) = .ok body)
    (hp : parsePage body = .ok page) :
    ∃ older x newer, log.items = older ++ x :: newer ∧ x.record? = some last ∧
      seen = last :: newer.filterMap DatedItem.record? ∧
      page = ((older.rtake pageLimit).filterMap DatedItem.record?).reverse := by
  cases seen with
  | nil => simp at hl
  | cons r seen =>
    obtain rfl : r = last := by simpa using hl
    obtain ⟨rest, hrest⟩ := hs
    obtain ⟨l₁, l₂, hsplit, -, hx⟩ := List.filterMap_eq_append_iff.mp hrest.symm
    obtain ⟨junk, x, newer, rfl, hjunk, hx, hnewer⟩ := List.filterMap_eq_cons_iff.mp hx
    have hitems : log.items = (l₁ ++ junk) ++ x :: newer := by rw [hsplit, List.append_assoc]
    refine ⟨l₁ ++ junk, x, newer, hitems, hx, by rw [hnewer], ?_⟩
    rw [fetched hv hf hp, (record_stamp hx).1, QueryLog.filter_older hapart hitems]

theorem next_suffix {older newer : List DatedItem} {x : DatedItem} {last : LogRecord}
    (h : log.items = older ++ x :: newer) (hx : x.record? = some last) :
    (older.rtake pageLimit).filterMap DatedItem.record? ++
      last :: newer.filterMap DatedItem.record? <:+ log.records := by
  obtain ⟨rest, hr⟩ := rtake_suffix older pageLimit
  refine ⟨rest.filterMap DatedItem.record?, ?_⟩
  rw [QueryLog.records, h, List.filterMap_append, List.filterMap_cons_some hx, ← List.append_assoc,
    ← List.filterMap_append, hr]

theorem morePages_suffix (hv : log.Serves env) (hapart : log.Apart) {seen found : List LogRecord}
    (hs : seen <:+ log.records) (h : morePages env stamp pages seen.reverse = .ok found) :
    ∃ all, all <:+ log.records ∧ found = all.reverse := by
  induction pages generalizing seen with
  | zero =>
    cases h
    exact ⟨seen, hs, rfl⟩
  | succ pages ih =>
    rcases morePages_cases h with ⟨rfl, -⟩ | ⟨last, body, page, hl, hf, hp, hm⟩
    · exact ⟨seen, hs, rfl⟩
    · obtain ⟨older, x, newer, hitems, hx, rfl, hpage⟩ := next_page hv hapart hs hl hf hp
      rw [hpage, ← List.reverse_append] at hm
      exact ih (next_suffix hitems hx) hm

theorem newer_nil {x c : DatedItem} {last : LogRecord} (hx : x.record? = some last)
    (h : newerThan [last] (some c.item.time) = .ok []) : x.micros ≤ c.micros := by
  by_contra hlt
  have htime : (c.micros : Rat) / 1000000 < last.event.time := by
    rw [(record_stamp hx).2, div_lt_div_iff_of_pos_right (by norm_num)]
    exact_mod_cast not_le.mp hlt
  simp only [newerThan, micro_of_nano c.dated] at h
  rw [List.filter_cons_of_pos (by simpa [DatedItem.micros] using htime)] at h
  simp [sortRecords] at h

section

variable {old fresh : List DatedItem} {c : DatedItem}

theorem micros_parts (hapart : log.Apart) (hitems : log.items = old ++ c :: fresh) :
    (∀ x ∈ old ++ [c], x.micros ≤ c.micros) ∧ ∀ x ∈ fresh, c.micros < x.micros := by
  have hr := hapart
  rw [QueryLog.Apart, hitems, List.pairwise_append, List.pairwise_cons] at hr
  refine ⟨fun x hx => ?_, hr.2.1.1⟩
  rcases List.mem_append.mp hx with hx | hx
  · exact (hr.2.2 x hx c (by simp)).le
  · rw [List.mem_singleton.mp hx]

theorem fresh_split (hitems : log.items = old ++ c :: fresh) {older newer : List DatedItem}
    {x : DatedItem} (hx : log.items = older ++ x :: newer)
    (hlt : ((x :: newer).filterMap DatedItem.record?).length <
      (fresh.filterMap DatedItem.record?).length) :
    ∃ mid, fresh = mid ++ x :: newer ∧ older = (old ++ [c]) ++ mid := by
  have hf : fresh <:+ log.items := ⟨old ++ [c], by simp [hitems]⟩
  have hn : x :: newer <:+ log.items := ⟨older, hx.symm⟩
  rcases List.suffix_or_suffix_of_suffix hf hn with h | h
  · exact absurd (h.filterMap DatedItem.record?).length_le (by omega)
  · obtain ⟨mid, rfl⟩ := h
    refine ⟨mid, rfl, ?_⟩
    apply List.append_cancel_right
    rw [← hx, hitems]
    simp

theorem morePages_covers (hv : log.Serves env) (hapart : log.Apart)
    (hitems : log.items = old ++ c :: fresh)
    {seen found : List LogRecord} (hs : seen <:+ log.records)
    (hcover : (fresh.filterMap DatedItem.record?).length ≤ seen.length ∨
      (∀ x ∈ fresh, x.record?.isSome) ∧ pageLimit ≤ seen.length ∧
        fresh.length ≤ seen.length + pages * pageLimit)
    (h : morePages env c.item.time pages seen.reverse = .ok found) :
    ∃ all, all <:+ log.records ∧ found = all.reverse ∧
      (fresh.filterMap DatedItem.record?).length ≤ all.length := by
  induction pages generalizing seen with
  | zero =>
    cases h
    refine ⟨seen, hs, rfl, ?_⟩
    rcases hcover with hle | ⟨hq, -, hle⟩
    · exact hle
    · rw [length_filterMap_of_isSome hq]
      omega
  | succ pages ih =>
    rcases morePages_cases h with ⟨rfl, hstop⟩ | ⟨last, body, page, hl, hf, hp, hm⟩
    · refine ⟨seen, hs, rfl, ?_⟩
      rcases hcover with hle | ⟨-, hlong, -⟩
      · exact hle
      · by_contra hlt
        have hpos : 0 < pageLimit := by decide
        rcases hstop with h0 | hshort | ⟨last, hl, hn⟩
        · rw [List.reverse_eq_nil_iff] at h0
          rw [h0, List.length_nil] at hlong
          omega
        · rw [List.length_reverse] at hshort
          omega
        · have hfresh : fresh.filterMap DatedItem.record? <:+ log.records :=
            List.IsSuffix.filterMap _ ⟨old ++ [c], by simp [hitems]⟩
          have hin := List.suffix_of_suffix_length_le hs hfresh (by omega)
          have hmem : last ∈ fresh.filterMap DatedItem.record? :=
            hin.subset (List.mem_reverse.mp (List.mem_of_getLast? hl))
          obtain ⟨x, hx, hlast⟩ := List.mem_filterMap.mp hmem
          have hnew := (micros_parts hapart hitems).2 x hx
          have hold := newer_nil hlast hn
          omega
    · obtain ⟨older, x, newer, hx, hlast, rfl, hpage⟩ := next_page hv hapart hs hl hf hp
      rw [hpage, ← List.reverse_append] at hm
      refine ih (next_suffix hx hlast) ?_ hm
      simp only [List.length_append, List.length_cons] at hcover ⊢
      by_cases hle : (fresh.filterMap DatedItem.record?).length ≤
          (newer.filterMap DatedItem.record?).length + 1
      · exact .inl (by omega)
      · rcases hcover with hcover | ⟨hq, hlong, hall⟩
        · exact absurd hcover hle
        · obtain ⟨mid, rfl, rfl⟩ := fresh_split hitems hx
            (by rw [List.filterMap_cons_some hlast, List.length_cons]; omega)
          have hshare : min mid.length pageLimit ≤
              ((((old ++ [c]) ++ mid).rtake pageLimit).filterMap DatedItem.record?).length :=
            page_share fun a ha => hq a (by simp [ha])
          have hnewer : (newer.filterMap DatedItem.record?).length = newer.length :=
            length_filterMap_of_isSome fun a ha => hq a (by simp [ha])
          have hsplit := length_filterMap_of_isSome hq
          simp only [List.length_append, List.length_cons] at hsplit hall ⊢
          by_cases hmid : mid.length ≤ pageLimit
          · exact .inl (by omega)
          · exact .inr ⟨hq, by omega, by
              rw [Nat.succ_mul] at hall
              omega⟩

theorem sort_newest {records : List LogRecord}
    (h : records.Pairwise fun a b => a.event.time < b.event.time) :
    sortRecords records.reverse = records := by
  have hsorted := List.pairwise_insertionSort
    (fun a b : LogRecord => a.event.time ≤ b.event.time) records.reverse
  have hperm : (sortRecords records.reverse).Perm records :=
    (List.perm_insertionSort _ _).trans (List.reverse_perm _)
  refine List.Perm.eq_of_pairwise (fun a b ha hb hab hba => ?_) hsorted
    (h.imp fun hlt => hlt.le) hperm
  by_contra hne
  have htimes : records.Pairwise fun a b => a.event.time ≠ b.event.time := h.imp ne_of_lt
  have : Std.Symm fun a b : LogRecord => a.event.time ≠ b.event.time := ⟨fun _ _ => Ne.symm⟩
  exact htimes.forall (hperm.subset ha) hb hne (le_antisymm hab hba)

theorem newer_fresh (hapart : log.Apart) (hitems : log.items = old ++ c :: fresh)
    {all : List LogRecord} (hall : all <:+ log.records)
    (hcover : (fresh.filterMap DatedItem.record?).length ≤ all.length) :
    newerThan all.reverse (some c.item.time) = .ok (fresh.filterMap DatedItem.record?) := by
  obtain ⟨hold, hnew⟩ := micros_parts hapart hitems
  have hlog : log.records =
      (old ++ [c]).filterMap DatedItem.record? ++ fresh.filterMap DatedItem.record? := by
    rw [QueryLog.records, hitems, ← List.filterMap_append]
    simp
  obtain ⟨extra, rfl, rest, hrest⟩ := suffix_split ⟨_, hlog.symm⟩ hall hcover
  have hextra : ∀ r ∈ extra, r.event.time ≤ (c.micros : Rat) / 1000000 := by
    intro r hr
    have hcancel : (old ++ [c]).filterMap DatedItem.record? = rest ++ extra := by
      rw [hlog, ← List.append_assoc] at hrest
      exact List.append_cancel_right hrest
    have hmem : r ∈ (old ++ [c]).filterMap DatedItem.record? := by simp [hcancel, hr]
    obtain ⟨x, hx, hr⟩ := List.mem_filterMap.mp hmem
    rw [(record_stamp hr).2, div_le_div_iff_of_pos_right (by norm_num)]
    exact_mod_cast hold x hx
  have hafter : ∀ r ∈ fresh.filterMap DatedItem.record?,
      (c.micros : Rat) / 1000000 < r.event.time := by
    intro r hr
    obtain ⟨x, hx, hr⟩ := List.mem_filterMap.mp hr
    rw [(record_stamp hr).2, div_lt_div_iff_of_pos_right (by norm_num)]
    exact_mod_cast hnew x hx
  have hrising : (fresh.filterMap DatedItem.record?).Pairwise
      fun a b => a.event.time < b.event.time := by
    have hpart : fresh.Pairwise fun a b => a.micros < b.micros :=
      hapart.sublist (hitems ▸ (List.sublist_cons_self c fresh).trans
        (List.sublist_append_right old _))
    refine hpart.filterMap DatedItem.record? fun a b hab r hr r' hr' => ?_
    rw [(record_stamp hr).2, (record_stamp hr').2, div_lt_div_iff_of_pos_right (by norm_num)]
    exact_mod_cast hab
  rw [newerThan]
  simp only [micro_of_nano c.dated]
  rw [List.filter_reverse, List.filter_append, List.filter_eq_nil_iff.mpr, List.nil_append,
    List.filter_eq_self.mpr, sort_newest hrising]
  · exact fun r hr => decide_eq_true (hafter r hr)
  · intro r hr
    simpa [DatedItem.micros] using hextra r hr

theorem newRecords_fresh (hv : log.Serves env) (hapart : log.Apart)
    (hitems : log.items = old ++ c :: fresh)
    (hcaught : fresh.length ≤ pageLimit ∨ fresh.length ≤ olderPages * pageLimit ∧
      ∀ x ∈ fresh, x.record?.isSome) {found : List LogRecord}
    (h : newRecords env (some c.item.time) = .ok found) :
    found = fresh.filterMap DatedItem.record? := by
  obtain ⟨body, hb, h⟩ := bind_ok h
  obtain ⟨page, hp, h⟩ := bind_ok h
  obtain ⟨records, hm, h⟩ := bind_ok h
  have hsplit : log.items = (old ++ [c]) ++ fresh := by simp [hitems]
  rw [first_page hv hb hp] at hm
  have hs : (log.items.rtake pageLimit).filterMap DatedItem.record? <:+ log.records :=
    (rtake_suffix _ _).filterMap _
  obtain ⟨all, hsuffix, rfl, hcover⟩ := morePages_covers hv hapart hitems hs (by
    by_cases hle : fresh.length ≤ pageLimit
    · rw [hsplit]
      exact .inl (page_covers hle)
    · rcases hcaught with hle' | ⟨hmost, hq⟩
      · exact absurd hle' hle
      · have hshare : min fresh.length pageLimit ≤
            ((((old ++ [c]) ++ fresh).rtake pageLimit).filterMap DatedItem.record?).length :=
          page_share hq
        rw [← hsplit] at hshare
        refine .inr ⟨hq, by omega, ?_⟩
        simp only [olderPages, pageLimit] at hmost hle hshare ⊢
        omega) hm
  exact Except.ok.inj (h.symm.trans (newer_fresh hapart hitems hsuffix hcover))

end

theorem newRecords_mem (hv : log.Serves env) (hapart : log.Apart) {cursor : Option String}
    {found : List LogRecord}
    (h : newRecords env cursor = .ok found) : ∀ r ∈ found, r ∈ log.records := by
  obtain ⟨body, hb, h⟩ := bind_ok h
  obtain ⟨page, hp, h⟩ := bind_ok h
  have hpage := first_page hv hb hp
  have hs : (log.items.rtake pageLimit).filterMap DatedItem.record? <:+ log.records :=
    (rtake_suffix _ _).filterMap _
  cases cursor with
  | none =>
    rw [hpage] at h
    intro r hr
    rw [← Except.ok.inj h] at hr
    exact hs.subset (List.mem_reverse.mp ((List.mem_insertionSort _).mp hr))
  | some stamp =>
    obtain ⟨records, hm, h⟩ := bind_ok h
    rw [hpage] at hm
    obtain ⟨all, hsuffix, rfl⟩ := morePages_suffix hv hapart hs hm
    simp only [newerThan] at h
    split at h
    · cases h
    · intro r hr
      rw [← Except.ok.inj h] at hr
      exact hsuffix.subset (List.mem_reverse.mp
        (List.mem_of_mem_filter ((List.mem_insertionSort _).mp hr)))

end SmartLoop

end VibeDPN
