import VibeDPN.Api.Lists
import VibeDPN.Lists.DomainLists
import VibeDPN.Lib.Sha256

namespace VibeDPN

open Text

def cacheNameChars : Nat := 16

def cacheStem (url : String) : String :=
  String.ofList ((Sha256.hexdigest url.toUTF8.toList).take cacheNameChars)

def cacheName (url : String) : String := cacheStem url ++ ".txt"

def temporaryName (url : String) : String := cacheStem url ++ ".tmp"

structure CacheFile where
  text : String
  mtime : Rat
deriving DecidableEq

def CacheFile.read (f : CacheFile) : String := String.ofList (lineFeeds f.text.toList)

abbrev CacheFiles := Dict String CacheFile

-- the step of a save that fails, with the reason of its OSError; a file that was opened holds what
-- was written of it
inductive SaveOutcome where
  | saved (mtime : Rat)
  | noDirectory (reason : String)
  | unopened (reason : String)
  | unwritten (written : String) (mtime : Rat) (reason : String)
  | unreplaced (mtime : Rat) (reason : String)

structure ListCache where
  directory : String

namespace ListCache

def path (cache : ListCache) (url : String) : String := cache.directory ++ "/" ++ cacheName url

def load (cache : ListCache) (files : CacheFiles) (url : String) (read : Except String Unit) :
    Except String (Option (String × Rat)) :=
  match read with
  | .error reason => .error ("cannot read the copy " ++ cache.path url ++ ": " ++ reason)
  | .ok () => .ok ((files.get? (cacheName url)).map fun f => (f.read, f.mtime))

def save (cache : ListCache) (files : CacheFiles) (url text : String) :
    SaveOutcome → CacheFiles × Except String Unit
  | .saved mtime =>
    ((files.erase (temporaryName url)).set (cacheName url) ⟨text, mtime⟩, .ok ())
  | .noDirectory reason => (files, .error (refusal reason))
  | .unopened reason => (files, .error (refusal reason))
  | .unwritten written mtime reason =>
    (files.set (temporaryName url) ⟨written, mtime⟩, .error (refusal reason))
  | .unreplaced mtime reason =>
    (files.set (temporaryName url) ⟨text, mtime⟩, .error (refusal reason))
where
  refusal (reason : String) : String := "cannot write the copy " ++ cache.path url ++ ": " ++ reason

end ListCache

structure Refresh where
  url : String
  maxAge : Rat := listRefreshSeconds
  now : Rat
  fetchedAt : Rat
  read : Except String Unit
  fetched : Except String String
  saved : SaveOutcome

def fetchList (cache : ListCache) (files : CacheFiles) (r : Refresh) :
    CacheFiles × Except String (List DomainName) :=
  match r.fetched with
  | .error reason => (files, .error reason)
  | .ok text =>
    let domains := parseList text
    if domains = [] then (files, .error (r.url ++ ": not a single domain in it"))
    else
      match cache.save files r.url text r.saved with
      | (files, .error reason) => (files, .error reason)
      | (files, .ok ()) => (files, .ok domains)

def fallBack (url reason : String) : Option (String × Rat) → List DomainName × ListState
  | none => ([], ⟨url, 0, none, reason⟩)
  | some (text, mtime) =>
    let domains := parseList text
    (domains, ⟨url, domains.length, some mtime, reason ++ "; the last copy is in use"⟩)

def refreshList (cache : ListCache) (files : CacheFiles) (r : Refresh) : CacheFiles × Refreshed :=
  match cache.load files r.url r.read with
  | .error reason => (files, .error reason)
  | .ok cached =>
    match cached.filter (fun copy => r.now - copy.2 < r.maxAge) with
    | some (text, mtime) =>
      let domains := parseList text
      (files, .ok (domains, ⟨r.url, domains.length, some mtime, ""⟩))
    | none =>
      match fetchList cache files r with
      | (files, .error reason) => (files, .ok (fallBack r.url reason cached))
      | (files, .ok domains) => (files, .ok (domains, ⟨r.url, domains.length, some r.fetchedAt, ""⟩))

theorem cacheName_ne_temporary (u v : String) : cacheName u ≠ temporaryName v := by
  intro h
  have hl := congrArg String.toList h
  rw [cacheName, temporaryName, String.toList_append, String.toList_append] at hl
  exact absurd (List.append_inj' hl rfl).2 (by decide)

theorem parseList_read (text : String) (mtime : Rat) :
    parseList (CacheFile.read ⟨text, mtime⟩) = parseList text := by
  rw [parseList, parseList, CacheFile.read, splitlines, splitlines, String.toList_ofList,
    lineLists_lineFeeds]

def CacheFiles.copy (files : CacheFiles) (url : String) : Option CacheFile :=
  files.get? (cacheName url)

theorem CacheFiles.copy_temporary (files : CacheFiles) (u v : String) (f : CacheFile) :
    CacheFiles.copy (files.set (temporaryName v) f) u = files.copy u :=
  Dict.get?_set_ne _ _ (cacheName_ne_temporary u v)

namespace ListCache

variable {cache : ListCache} {files : CacheFiles}

theorem save_error {url text reason : String} {o : SaveOutcome}
    (h : (cache.save files url text o).2 = .error reason) (u : String) :
    CacheFiles.copy (cache.save files url text o).1 u = files.copy u := by
  cases o with
  | saved mtime => simp [save] at h
  | noDirectory reason => rfl
  | unopened reason => rfl
  | unwritten written mtime reason => exact files.copy_temporary u url _
  | unreplaced mtime reason => exact files.copy_temporary u url _

theorem save_ok {url text : String} {o : SaveOutcome}
    (h : (cache.save files url text o).2 = .ok ()) :
    ∃ mtime, o = .saved mtime ∧ ∀ u, CacheFiles.copy (cache.save files url text o).1 u =
      if cacheName u = cacheName url then some ⟨text, mtime⟩ else files.copy u := by
  cases o with
  | saved mtime =>
    refine ⟨mtime, rfl, fun u => ?_⟩
    rw [save, CacheFiles.copy, Dict.get?_set]
    split
    · rfl
    · rw [Dict.get?_erase, if_neg (cacheName_ne_temporary u url), CacheFiles.copy]
  | noDirectory reason => simp [save] at h
  | unopened reason => simp [save] at h
  | unwritten written mtime reason => simp [save] at h
  | unreplaced mtime reason => simp [save] at h

end ListCache

def Refresh.Usable (r : Refresh) : Prop :=
  ∃ text mtime, r.fetched = .ok text ∧ parseList text ≠ [] ∧ r.saved = .saved mtime

theorem fetchList_error {cache : ListCache} {files : CacheFiles} {r : Refresh} {reason : String}
    (h : (fetchList cache files r).2 = .error reason) :
    ¬ r.Usable ∧ ∀ u, CacheFiles.copy (fetchList cache files r).1 u = files.copy u := by
  rw [fetchList] at h ⊢
  cases hf : r.fetched with
  | error e => exact ⟨fun ⟨text, mtime, ht, _⟩ => by simp [hf] at ht, fun u => rfl⟩
  | ok text =>
    simp only [hf] at h ⊢
    split at h
    next hd =>
      rw [if_pos hd]
      refine ⟨fun ⟨text', mtime, ht, hne, _⟩ => ?_, fun u => rfl⟩
      rw [hf, Except.ok.injEq] at ht
      exact hne (ht ▸ hd)
    next hd =>
      rw [if_neg hd]
      cases hs : cache.save files r.url text r.saved with
      | mk files' result =>
        cases result with
        | ok _ => simp [hs] at h
        | error e =>
          have he : (cache.save files r.url text r.saved).2 = .error e := by rw [hs]
          refine ⟨fun ⟨_, mtime, _, _, hm⟩ => ?_, fun u => ?_⟩
          · rw [hm, ListCache.save] at hs
            simp at hs
          · have hu := ListCache.save_error he u
            rwa [hs] at hu

theorem fetchList_ok {cache : ListCache} {files : CacheFiles} {r : Refresh}
    {domains : List DomainName} (h : (fetchList cache files r).2 = .ok domains) :
    ∃ text mtime, r.fetched = .ok text ∧ r.saved = .saved mtime ∧ parseList text = domains ∧
      domains ≠ [] ∧ ∀ u, CacheFiles.copy (fetchList cache files r).1 u =
        if cacheName u = cacheName r.url then some ⟨text, mtime⟩ else files.copy u := by
  rw [fetchList] at h ⊢
  cases hf : r.fetched with
  | error e => simp [hf] at h
  | ok text =>
    simp only [hf] at h ⊢
    split at h
    next => simp at h
    next hd =>
      rw [if_neg hd]
      cases hs : cache.save files r.url text r.saved with
      | mk files' result =>
        cases result with
        | error e => simp [hs] at h
        | ok _ =>
          simp only [hs, Except.ok.injEq] at h
          have hok : (cache.save files r.url text r.saved).2 = .ok () := by rw [hs]
          obtain ⟨mtime, hm, hu⟩ := ListCache.save_ok hok
          rw [hs] at hu
          exact ⟨text, mtime, rfl, hm, h, h ▸ hd, hu⟩

def Refresh.Fresh (r : Refresh) (files : CacheFiles) : Prop :=
  ∃ f, files.copy r.url = some f ∧ r.now - f.mtime < r.maxAge

theorem refreshList_cases (cache : ListCache) (files : CacheFiles) (r : Refresh) :
    (∃ reason, r.read ≠ .ok () ∧ refreshList cache files r = (files, .error reason)) ∨
    (∃ f, files.copy r.url = some f ∧ r.Fresh files ∧ refreshList cache files r =
      (files, .ok (parseList f.read, ⟨r.url, (parseList f.read).length, some f.mtime, ""⟩))) ∨
    (∃ reason, ¬ r.Fresh files ∧ (fetchList cache files r).2 = .error reason ∧
      refreshList cache files r = ((fetchList cache files r).1, .ok (fallBack r.url reason
        ((files.copy r.url).map fun f => (f.read, f.mtime))))) ∨
    ∃ domains, (fetchList cache files r).2 = .ok domains ∧
      refreshList cache files r = ((fetchList cache files r).1,
        .ok (domains, ⟨r.url, domains.length, some r.fetchedAt, ""⟩)) := by
  cases hr : r.read with
  | error e =>
    have hl : cache.load files r.url r.read =
        .error ("cannot read the copy " ++ cache.path r.url ++ ": " ++ e) := by
      rw [hr]
      rfl
    exact .inl ⟨_, by simp, by rw [refreshList, hl]⟩
  | ok _ =>
    have hl : cache.load files r.url r.read =
        .ok ((files.copy r.url).map fun f => (f.read, f.mtime)) := by
      rw [hr]
      rfl
    right
    rw [refreshList, hl]
    simp only
    by_cases hfresh : r.Fresh files
    · obtain ⟨f, hf, hlt⟩ := hfresh
      left
      refine ⟨f, hf, ⟨f, hf, hlt⟩, ?_⟩
      rw [hf, Option.map_some, Option.filter_some, if_pos (by simpa using hlt)]
    · right
      have hnone : ((files.copy r.url).map fun f => (f.read, f.mtime)).filter
          (fun copy => decide (r.now - copy.2 < r.maxAge)) = none := by
        rw [Option.filter_eq_none_iff]
        intro copy hc hlt
        rw [Option.map_eq_some_iff] at hc
        obtain ⟨f, hf, rfl⟩ := hc
        exact hfresh ⟨f, hf, by simpa using hlt⟩
      rw [hnone]
      cases hres : fetchList cache files r with
      | mk files' result =>
        cases result with
        | error reason => exact .inl ⟨reason, hfresh, rfl, rfl⟩
        | ok domains => exact .inr ⟨domains, rfl, rfl⟩

namespace ListCache

variable (cache : ListCache)

def refreshed (files : CacheFiles) (r : Refresh) : CacheFiles := (refreshList cache files r).1

-- a copy changes to what was fetched alone, for a URL of its name
def ReplacesWell (files : CacheFiles) (r : Refresh) : Prop :=
  ∀ u, (cache.refreshed files r).copy u ≠ files.copy u → cacheName u = cacheName r.url ∧
    ∃ text mtime, r.fetched = .ok text ∧ parseList text ≠ [] ∧
      (cache.refreshed files r).copy u = some ⟨text, mtime⟩

def KeepsCopy (files : CacheFiles) (r : Refresh) : Prop :=
  ¬ r.Usable → (∀ u, (cache.refreshed files r).copy u = files.copy u) ∧
    ∀ f, files.copy r.url = some f → r.read = .ok () → ∃ reason,
      (refreshList cache files r).2 =
        .ok (parseList f.read, ⟨r.url, (parseList f.read).length, some f.mtime, reason⟩) ∧
      (¬ r.Fresh files → reason ≠ "")

def Good (files : CacheFiles) (url : String) : Prop :=
  ∃ f, files.copy url = some f ∧ parseList f.read ≠ []

-- the list had a copy with domains at first, or one of the calls gave domains for it
def HadDomains (files : CacheFiles) (before : List Refresh) (url : String) : Prop :=
  Good files url ∨ ∃ earlier r later domains state, before = earlier ++ r :: later ∧ r.url = url ∧
    (refreshList cache (earlier.foldl cache.refreshed files) r).2 = .ok (domains, state) ∧
      domains ≠ []

variable {cache} {files : CacheFiles} {r : Refresh}

theorem replacesWell : cache.ReplacesWell files r := by
  intro u hu
  rw [refreshed] at hu ⊢
  rcases refreshList_cases cache files r with ⟨reason, -, h⟩ | ⟨f, -, -, h⟩ | ⟨reason, -, he, h⟩ |
    ⟨domains, hd, h⟩
  · exact absurd (by rw [h]) hu
  · exact absurd (by rw [h]) hu
  · rw [h] at hu
    exact absurd ((fetchList_error he).2 u) hu
  · obtain ⟨text, mtime, hf, -, hp, hne, hcopy⟩ := fetchList_ok hd
    rw [h] at hu ⊢
    have hc := hcopy u
    split at hc
    next hname => exact ⟨hname, text, mtime, hf, hp ▸ hne, hc⟩
    next => exact absurd hc hu

theorem keepsCopy : cache.KeepsCopy files r := by
  intro hn
  rw [refreshed]
  rcases refreshList_cases cache files r with ⟨reason, hr, h⟩ | ⟨f, hf, hfresh, h⟩ |
    ⟨reason, hstale, he, h⟩ | ⟨domains, hd, -⟩
  · exact ⟨fun u => by rw [h], fun f _ hok => absurd hok hr⟩
  · refine ⟨fun u => by rw [h], fun g hg _ => ⟨"", ?_, fun hs => absurd hfresh hs⟩⟩
    rw [hf, Option.some.injEq] at hg
    rw [h, hg]
  · refine ⟨fun u => by rw [h]; exact (fetchList_error he).2 u, fun f hf _ =>
      ⟨reason ++ "; the last copy is in use", by rw [h, hf]; rfl, fun _ hempty => ?_⟩⟩
    have hl := congrArg String.toList hempty
    rw [String.toList_append] at hl
    exact absurd (List.append_eq_nil_iff.mp hl).2 (by decide)
  · obtain ⟨text, mtime, hf, hs, hp, hne, -⟩ := fetchList_ok hd
    exact absurd ⟨text, mtime, hf, hp ▸ hne, hs⟩ hn

theorem Good.refreshed {url : String} (h : Good files url) : Good (cache.refreshed files r) url := by
  obtain ⟨f, hf, hne⟩ := h
  by_cases hu : (cache.refreshed files r).copy url = files.copy url
  · exact ⟨f, hu.trans hf, hne⟩
  · obtain ⟨-, text, mtime, -, hp, hc⟩ := replacesWell url hu
    exact ⟨_, hc, by rwa [parseList_read]⟩

theorem good_run {url : String} (run : List Refresh) (h : Good files url) :
    Good (run.foldl cache.refreshed files) url := by
  induction run generalizing files with
  | nil => exact h
  | cons r run ih => exact ih h.refreshed

theorem good_of_domains {domains : List DomainName} {state : ListState}
    (h : (refreshList cache files r).2 = .ok (domains, state)) (hne : domains ≠ []) :
    Good (cache.refreshed files r) r.url := by
  rw [refreshed]
  rcases refreshList_cases cache files r with ⟨reason, -, hc⟩ | ⟨f, hf, -, hc⟩ |
    ⟨reason, -, he, hc⟩ | ⟨got, hd, hc⟩
  · simp [hc] at h
  · rw [hc] at h ⊢
    simp only [Except.ok.injEq, Prod.mk.injEq] at h
    exact ⟨f, hf, h.1 ▸ hne⟩
  · rw [hc] at h ⊢
    cases hf : files.copy r.url with
    | none =>
      simp only [hf, Option.map_none, fallBack, Except.ok.injEq, Prod.mk.injEq] at h
      exact absurd h.1.symm hne
    | some f =>
      simp only [hf, Option.map_some, fallBack, Except.ok.injEq, Prod.mk.injEq] at h
      exact ⟨f, ((fetchList_error he).2 r.url).trans hf, h.1 ▸ hne⟩
  · obtain ⟨text, mtime, -, -, hp, hdne, hcopy⟩ := fetchList_ok hd
    rw [hc]
    refine ⟨_, by rw [hcopy, if_pos rfl], ?_⟩
    rwa [parseList_read, hp]

theorem Good.never_empty (hg : Good files r.url) (state : ListState) :
    (refreshList cache files r).2 ≠ .ok ([], state) := by
  obtain ⟨f, hf, hne⟩ := hg
  intro h
  rcases refreshList_cases cache files r with ⟨reason, -, hc⟩ | ⟨g, hg, -, hc⟩ |
    ⟨reason, -, -, hc⟩ | ⟨got, hd, hc⟩
  · simp [hc] at h
  · rw [hf, Option.some.injEq] at hg
    rw [hc, Except.ok.injEq, Prod.mk.injEq] at h
    exact hne (hg ▸ h.1)
  · rw [hc, hf, Option.map_some, fallBack, Except.ok.injEq, Prod.mk.injEq] at h
    exact hne h.1
  · obtain ⟨text, mtime, -, -, -, hdne, -⟩ := fetchList_ok hd
    rw [hc, Except.ok.injEq, Prod.mk.injEq] at h
    exact hdne h.1

theorem HadDomains.good {before : List Refresh} {url : String}
    (h : cache.HadDomains files before url) : Good (before.foldl cache.refreshed files) url := by
  rcases h with h | ⟨earlier, r, later, domains, state, rfl, rfl, hres, hne⟩
  · exact good_run before h
  · rw [List.foldl_append, List.foldl_cons]
    exact good_run later (good_of_domains hres hne)

end ListCache

theorem good_copy_survives (cache : ListCache) (files : CacheFiles) (run : List Refresh) :
    EachStep cache.refreshed (fun s r => cache.ReplacesWell s r ∧ cache.KeepsCopy s r) files run ∧
      ∀ before r after, run = before ++ r :: after → cache.HadDomains files before r.url →
        ∀ state, (refreshList cache (before.foldl cache.refreshed files) r).2 ≠ .ok ([], state) := by
  constructor
  · induction run generalizing files with
    | nil => trivial
    | cons r run ih => exact ⟨⟨ListCache.replacesWell, ListCache.keepsCopy⟩, ih _⟩
  · exact fun before r after _ had state => had.good.never_empty state

def firstList : String := "https://lists.example/5b2518b97362b59d.txt"

def secondList : String := "https://lists.example/1305eaf30b0f6aac.txt"

theorem shared_name : cacheName firstList = cacheName secondList := by decide +kernel

def usable (url text : String) (now : Rat) : Refresh where
  url := url
  now := now
  fetchedAt := now
  read := .ok ()
  fetched := .ok text
  saved := .saved now

def lost (url : String) (now : Rat) : Refresh where
  url := url
  now := now
  fetchedAt := now
  read := .ok ()
  fetched := .error "timed out"
  saved := .saved now

theorem usable_domains (cache : ListCache) {files : CacheFiles} {url text : String} {now : Rat}
    (hp : parseList text ≠ []) (hs : ¬ (usable url text now).Fresh files) :
    ∃ domains state, (refreshList cache files (usable url text now)).2 = .ok (domains, state) ∧
      domains ≠ [] := by
  rcases refreshList_cases cache files (usable url text now) with ⟨reason, hr, -⟩ | ⟨f, -, hf, -⟩ |
    ⟨reason, -, he, -⟩ | ⟨domains, hd, hc⟩
  · exact absurd rfl hr
  · exact absurd hf hs
  · exact absurd ⟨text, now, rfl, hp, rfl⟩ (fetchList_error he).1
  · obtain ⟨-, -, -, -, -, hne, -⟩ := fetchList_ok hd
    exact ⟨domains, _, by rw [hc], hne⟩

theorem nothing_fresh (r : Refresh) : ¬ r.Fresh Dict.empty := by
  rintro ⟨f, hf, -⟩
  cases hf

-- a list that came once is served again after a day on which it does not come
theorem lost_list_served : ¬ ∃ state, (refreshList ⟨"lists"⟩
    ((⟨"lists"⟩ : ListCache).refreshed Dict.empty (usable firstList "one.example" 0))
      (lost firstList 100000)).2 = .ok ([], state) := by
  rintro ⟨after, hempty⟩
  obtain ⟨domains, state, hres, hne⟩ := usable_domains ⟨"lists"⟩
    (show parseList "one.example" ≠ [] by decide +kernel)
    (nothing_fresh (usable firstList "one.example" 0))
  exact (good_copy_survives ⟨"lists"⟩ Dict.empty
    [usable firstList "one.example" 0, lost firstList 100000]).2
    [usable firstList "one.example" 0] (lost firstList 100000) [] rfl
    (.inr ⟨[], usable firstList "one.example" 0, [], domains, state, rfl, rfl, hres, hne⟩) after
    hempty

theorem usable_saved (cache : ListCache) {files : CacheFiles} {url text : String} {now : Rat}
    (hp : parseList text ≠ []) (hs : ¬ (usable url text now).Fresh files) {u : String}
    (hu : cacheName u = cacheName url) :
    CacheFiles.copy (cache.refreshed files (usable url text now)) u = some ⟨text, now⟩ := by
  rw [ListCache.refreshed]
  rcases refreshList_cases cache files (usable url text now) with ⟨reason, hr, -⟩ | ⟨f, -, hf, -⟩ |
    ⟨reason, -, he, -⟩ | ⟨domains, hd, hc⟩
  · exact absurd rfl hr
  · exact absurd hf hs
  · exact absurd ⟨text, now, rfl, hp, rfl⟩ (fetchList_error he).1
  · obtain ⟨text', mtime, hf, hm, -, -, hcopy⟩ := fetchList_ok hd
    obtain rfl := Except.ok.inj hf
    obtain rfl := SaveOutcome.saved.inj hm
    rw [hc, hcopy]
    exact if_pos hu

-- two URLs whose digests begin alike: the list of the one replaces the copy of the other
theorem shared_copy_replaced : firstList ≠ secondList ∧
    let cache : ListCache := ⟨"lists"⟩
    let files := cache.refreshed Dict.empty (usable firstList "one.example" 0)
    files.copy firstList = some ⟨"one.example", 0⟩ ∧
      (cache.refreshed files (usable secondList "two.example" 100000)).copy firstList =
        some ⟨"two.example", 100000⟩ := by
  have hone : parseList "one.example" ≠ [] := by decide +kernel
  have htwo : parseList "two.example" ≠ [] := by decide +kernel
  have hfirst := usable_saved ⟨"lists"⟩ hone (nothing_fresh (usable firstList "one.example" 0)) rfl
  refine ⟨by decide, hfirst, usable_saved _ htwo ?_ shared_name⟩
  rintro ⟨f, hf, hlt⟩
  rw [CacheFiles.copy, show cacheName (usable secondList "two.example" 100000).url =
    cacheName firstList from shared_name.symm, ← CacheFiles.copy, hfirst, Option.some.injEq] at hf
  rw [← hf] at hlt
  norm_num [usable, listRefreshSeconds] at hlt

end VibeDPN
