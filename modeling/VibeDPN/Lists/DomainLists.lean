import VibeDPN.Config.Names
import VibeDPN.Lib.Firsts
import VibeDPN.Lib.Inet6
import VibeDPN.Lib.Lines

namespace VibeDPN

open Text Inet

@[irreducible] def maxListDomains : Nat := 500000

theorem maxListDomains_pos : 0 < maxListDomains := by
  rw [maxListDomains]
  decide

def commentMarks : List String := ["#", "!"]

def adblockPrefix : String := "||"

def adblockEnd : String := "^"

def hostNames : List String := ["localhost.localdomain", "ip6-localhost.localdomain"]

def isAddress (token : String) : Bool := isIpAddress token

def lineNames (line : String) : List String :=
  if startsWith line adblockPrefix then
    let rule := removePrefix line adblockPrefix
    if endsWith rule adblockEnd then [removeSuffix rule adblockEnd] else []
  else
    match words line with
    | [] => []
    | [token] => [token]
    | token :: names => if isAddress token then names else []

def beforeHash (raw : String) : String := String.ofList (raw.toList.takeWhile (· ≠ '#'))

def takeName (found : List DomainName) (name : String) :
    Except (List DomainName) (List DomainName) :=
  match normalizeDomain name with
  | none => .ok found
  | some domain =>
      let found := if domain.val ∈ hostNames ∨ domain ∈ found then found else found ++ [domain]
      if maxListDomains ≤ found.length then .error found else .ok found

def takeLine (found : List DomainName) (raw : String) :
    Except (List DomainName) (List DomainName) :=
  let line := strip (beforeHash raw)
  if line = "" ∨ commentMarks.any (startsWith line) then .ok found
  else (lineNames line).foldlM takeName found

def parseList (text : String) : List DomainName :=
  match (splitlines text).foldlM takeLine [] with
  | .ok found => found
  | .error found => found

def siteDomain (name : String) : Option DomainName :=
  (normalizeDomain name).filter fun domain => domain.val ∉ hostNames

def ruleName (word : String) : String :=
  if startsWith word adblockPrefix ∧ endsWith word adblockEnd then
    removeSuffix (removePrefix word adblockPrefix) adblockEnd
  else word

-- a domain, an address followed by names, or a rule
def listedNames : List String → List String
  | [] => []
  | [word] => [ruleName word]
  | word :: names => if isAddress word then names else []

def withoutComment (line : String) : String := String.ofList (uncomment '#' true line.toList)

def listedDomains (line : String) : List DomainName :=
  (listedNames (words (withoutComment line))).filterMap siteDomain

def listDomains (text : String) : List DomainName :=
  distinct maxListDomains ((splitlines text).flatMap listedDomains)

def hasHash (word : String) : Bool := '#' ∈ word.toList

def newDomains (before names : List String) : List DomainName :=
  addition maxListDomains (before.filterMap siteDomain) (names.filterMap siteDomain)

-- the name that the '#' cuts brings what the names behind it bring, as a rule nothing
def ReadsWhole (line : String) : Prop :=
  let ws := words (withoutComment line)
  match ws.takeWhile (!hasHash ·), ws.dropWhile (!hasHash ·) with
  | _, [] => True
  | [], word :: behind =>
      newDomains [] [ruleName (beforeHash word)] =
        newDomains [] (if isAddress word then behind else [])
  | first :: names, word :: behind =>
      isAddress first = true → newDomains names [beforeHash word] = newDomains names behind

theorem foreign_char {name : String} {c : Char} (hc : c ∈ name.toList) (hk : c ≠ '\u212a')
    (hn : c.toNat < 65 ∨ 90 < c.toNat) (hl : isLabelChar c = false) (hd : c ≠ '.') :
    siteDomain name = none := by
  have hm : c ∈ (stripBy (· = '.') (lower name)).toList := by
    have hlow : c ∈ (lower name).toList := by
      rw [toList_lower]
      exact List.mem_map.mpr ⟨c, hc, lowerChar_of_not_upper hk hn⟩
    rw [toList_stripBy]
    exact mem_stripList hlow (by simpa using hd)
  have hno : isDomain (stripBy (· = '.') (lower name)) = false := by
    by_contra h
    rcases isDomain_chars (Bool.not_eq_false _ ▸ h) c hm with h | h
    · simp [hl] at h
    · exact hd h
  rw [siteDomain, normalizeDomain, check, dif_neg (by simp [hno])]
  rfl

theorem spaced_name {name : String} {c : Char} (hc : c ∈ name.toList) (hs : isSpace c = true) :
    siteDomain name = none := by
  have hn : c.toNat < 45 ∨ 122 < c.toNat ∧ c.toNat ≠ 8490 := by
    simp only [isSpace, Bool.or_eq_true, Bool.and_eq_true, decide_eq_true_eq] at hs
    omega
  apply foreign_char hc
  · rintro rfl
    revert hn
    decide
  · omega
  · by_contra hl
    rw [Bool.not_eq_false, isLabelChar, Bool.or_eq_true, Bool.or_eq_true, isLower_iff,
      isNumber_iff, decide_eq_true_eq] at hl
    rcases hl with (hl | hl) | rfl
    · omega
    · omega
    · revert hn
      decide
  · rintro rfl
    revert hn
    decide

theorem hash_name {name : String} (h : '#' ∈ name.toList) : siteDomain name = none :=
  foreign_char h (by decide) (by decide) (by decide) (by decide)

theorem bar_name {name : String} (h : '|' ∈ name.toList) : siteDomain name = none :=
  foreign_char h (by decide) (by decide) (by decide) (by decide)

theorem address_head {token : String} {c : Char} {l : List Char} (h : isAddress token = true)
    (ht : token.toList = c :: l) : c ≠ '|' ∧ c ≠ '!' := by
  obtain ⟨d, m, hd, hx⟩ := ipAddress_head h
  obtain rfl : c = d := by
    rw [ht] at hd
    exact (List.cons.inj hd).1
  constructor
  · rintro rfl
    revert hx
    decide
  · rintro rfl
    revert hx
    decide

theorem endsWith_mark (s : String) :
    endsWith s adblockEnd = true ↔ ∃ name, s.toList = name ++ ['^'] := by
  rw [endsWith, List.isSuffixOf_iff_suffix]
  exact ⟨fun ⟨name, h⟩ => ⟨name, h.symm⟩, fun ⟨name, h⟩ => ⟨name, h.symm⟩⟩

theorem endsWith_rule (r : String) :
    endsWith (adblockPrefix ++ r) adblockEnd = endsWith r adblockEnd := by
  rw [Bool.eq_iff_iff, endsWith_mark, endsWith_mark, String.toList_append]
  constructor
  · rintro ⟨name, h⟩
    induction hr : r.toList using List.reverseRecOn with
    | nil =>
      rw [hr, List.append_nil] at h
      exact absurd (congrArg List.getLast? h) (by simp; decide)
    | append_singleton m c =>
      rw [hr, ← List.append_assoc] at h
      rw [(List.append_inj' h rfl).2]
      exact ⟨m, rfl⟩
  · rintro ⟨name, h⟩
    exact ⟨adblockPrefix.toList ++ name, by rw [h, List.append_assoc]⟩

theorem rule_forms (r : String) :
    (if endsWith r adblockEnd then [removeSuffix r adblockEnd] else []).filterMap siteDomain =
      [ruleName (adblockPrefix ++ r)].filterMap siteDomain := by
  have hbar : siteDomain (adblockPrefix ++ r) = none :=
    bar_name (by rw [String.toList_append]; exact List.mem_append_left _ (by decide))
  rw [ruleName, endsWith_rule, startsWith_append, removePrefix_append]
  cases endsWith r adblockEnd with
  | true => simp
  | false => simp [hbar]

theorem removeSuffix_mark {r : String} {name : List Char} (h : r.toList = name ++ ['^']) :
    (removeSuffix r adblockEnd).toList = name := by
  have hlen : adblockEnd.toList.length = 1 := by decide
  rw [removeSuffix, if_pos ((endsWith_mark r).mpr ⟨name, h⟩), String.toList_ofList, h, hlen]
  simp

theorem spaced_rule {r : String} {c : Char} (hc : c ∈ r.toList) (hs : isSpace c = true) :
    (if endsWith r adblockEnd then [removeSuffix r adblockEnd] else []).filterMap siteDomain =
      [] := by
  split
  next he =>
    obtain ⟨name, hr⟩ := (endsWith_mark r).mp he
    have hn : c ∈ (removeSuffix r adblockEnd).toList := by
      rw [removeSuffix_mark hr]
      rw [hr] at hc
      rcases List.mem_append.mp hc with hc | hc
      · exact hc
      · rw [List.mem_singleton.mp hc] at hs
        exact absurd hs (by decide)
    simp [spaced_name hn hs]
  · rfl

theorem strip_head (s : String) : ∀ c ∈ (strip s).toList.head?, isSpace c = false := by
  rw [strip, toList_stripBy]
  exact stripList_head isSpace s.toList

theorem strip_last (s : String) : ∀ c ∈ (strip s).toList.getLast?, isSpace c = false := by
  rw [strip, toList_stripBy]
  exact stripList_last isSpace s.toList

theorem single_word {s word : String} (h : words (strip s) = [word]) : strip s = word := by
  rw [words] at h
  obtain ⟨w, hw, rfl⟩ := List.map_eq_singleton_iff.mp h
  rw [← String.toList_inj, String.toList_ofList]
  exact stripped_word (strip_head s) (strip_last s) hw

-- a rule of several words opens with its bars, so its first word is no address
theorem rule_words {r : String} {word next : String} {rest : List String}
    (h : words (adblockPrefix ++ r) = word :: next :: rest) :
    isAddress word = false ∧ ∃ c ∈ r.toList, isSpace c = true := by
  have hl : (adblockPrefix ++ r).toList = '|' :: '|' :: r.toList := by
    rw [String.toList_append]
    rfl
  have hfirst := wordLists_first (l := '|' :: '|' :: r.toList) (by simp) (by simp; decide)
  rw [words, hl, hfirst, List.map_cons, List.cons.injEq] at h
  constructor
  · by_contra ha
    rw [Bool.not_eq_false, ← h.1] at ha
    rw [List.takeWhile_cons_of_pos (by decide)] at ha
    exact (address_head ha String.toList_ofList).1 rfl
  · by_contra hno
    have hall : ∀ c ∈ '|' :: '|' :: r.toList, isSpace c = false := by
      intro c hc
      rcases List.mem_cons.mp hc with rfl | hc
      · decide
      · rcases List.mem_cons.mp hc with rfl | hc
        · decide
        · by_contra hs
          exact hno ⟨c, hc, Bool.not_eq_false _ ▸ hs⟩
    have hd : ('|' :: '|' :: r.toList).dropWhile (!isSpace ·) = [] :=
      List.dropWhile_eq_nil_iff.mpr fun c hc => by simp [hall c hc]
    rw [hd] at h
    simp at h

theorem words_rule_ne (r : String) : words (adblockPrefix ++ r) ≠ [] := by
  intro h
  have hl := wordLists_eq_nil (List.map_eq_nil_iff.mp h) '|'
    (by rw [String.toList_append]; exact List.mem_append_left _ (by decide))
  exact absurd hl (by decide)

-- the code tells the forms by the stripped line, the reader by its words
theorem lineNames_listed (s : String) :
    (lineNames (strip s)).filterMap siteDomain = (listedNames (words s)).filterMap siteDomain := by
  rw [← words_strip s, lineNames]
  cases hp : startsWith (strip s) adblockPrefix with
  | true =>
    obtain ⟨r, hr⟩ := startsWith_iff.mp hp
    rw [if_pos rfl, hr, removePrefix_append]
    cases hw : words (adblockPrefix ++ r) with
    | nil => exact absurd hw (words_rule_ne r)
    | cons word rest =>
      cases rest with
      | nil =>
        rw [← hr] at hw
        rw [listedNames, ← single_word hw, hr]
        exact rule_forms r
      | cons next rest =>
        obtain ⟨ha, c, hc, hs⟩ := rule_words hw
        have hl : listedNames (word :: next :: rest) = [] := by simp [listedNames, ha]
        rw [hl]
        exact spaced_rule hc hs
  | false =>
    rw [if_neg (by simp)]
    cases hw : words (strip s) with
    | nil => rfl
    | cons word rest =>
      cases rest with
      | nil => rw [listedNames, ruleName, ← single_word hw, if_neg (by simp [hp])]
      | cons next rest => rfl

theorem marked_word {word : String} {m : List Char} (hw : word.toList = '!' :: m)
    (rest : List String) : (listedNames (word :: rest)).filterMap siteDomain = [] := by
  cases rest with
  | nil =>
    have hrule : startsWith word adblockPrefix = false := by
      rw [startsWith, hw]
      rfl
    have hd : siteDomain word = none :=
      foreign_char (c := '!') (by simp [hw]) (by decide) (by decide) (by decide) (by decide)
    rw [listedNames, ruleName, if_neg (by simp [hrule])]
    simp [hd]
  | cons next rest =>
    have ha : isAddress word = false := by
      by_contra ha
      exact (address_head (Bool.not_eq_false _ ▸ ha) hw).2 rfl
    simp [listedNames, ha]

theorem marked_line {s : String} (h : commentMarks.any (startsWith (strip s)) = true)
    (hno : '#' ∉ (strip s).toList) : (listedNames (words s)).filterMap siteDomain = [] := by
  have hp : startsWith (strip s) "!" = true := by
    simp only [commentMarks, List.any_cons, List.any_nil, Bool.or_false, Bool.or_eq_true] at h
    rcases h with h | h
    · obtain ⟨t, ht⟩ := startsWith_iff.mp h
      rw [ht] at hno
      exact absurd (show '#' ∈ ("#" ++ t).toList by simp) hno
    · exact h
  obtain ⟨t, ht⟩ := startsWith_iff.mp hp
  have hl : (strip s).toList = '!' :: t.toList := by
    rw [ht, String.toList_append]
    rfl
  have hfirst := wordLists_first (l := '!' :: t.toList) (by simp) (by simp; decide)
  rw [List.takeWhile_cons_of_pos (by decide)] at hfirst
  rw [← words_strip s, words, hl, hfirst, List.map_cons]
  exact marked_word String.toList_ofList _

def lineDomains (raw : String) : List DomainName :=
  (listedNames (words (beforeHash raw))).filterMap siteDomain

theorem beforeHash_clean (raw : String) : '#' ∉ (beforeHash raw).toList := by
  intro h
  rw [beforeHash, String.toList_ofList] at h
  simpa using mem_takeWhile '#' h

theorem mem_of_mem_strip {s : String} {c : Char} (h : c ∈ (strip s).toList) : c ∈ s.toList := by
  rw [strip, toList_stripBy, stripList] at h
  exact (List.dropWhile_sublist _).subset ((List.rdropWhile_prefix _ _).subset h)

theorem takeName_settled {offered found : List DomainName} (name : String)
    (h : Settled maxListDomains offered (.ok found)) :
    Settled maxListDomains (offered ++ (siteDomain name).toList) (takeName found name) := by
  cases h with
  | going hk =>
    rw [takeName, siteDomain]
    cases normalizeDomain name with
    | none =>
      rw [Option.filter_none, Option.toList_none, List.append_nil]
      exact .going hk
    | some domain =>
      by_cases hh : domain.val ∈ hostNames
      · rw [Option.filter_some_neg (by simp [hh]), Option.toList_none, List.append_nil]
        simp only [hh, true_or, if_true, Nat.not_le.mpr hk, if_false]
        exact .going hk
      · rw [Option.filter_some_pos (by simp [hh]), Option.toList_some]
        have hkeep : (if domain.val ∈ hostNames ∨ domain ∈ firsts maxListDomains offered then
            firsts maxListDomains offered else firsts maxListDomains offered ++ [domain]) =
              firsts maxListDomains (offered ++ [domain]) := by
          rw [firsts_concat, keepFirst]
          simp [hh, Nat.not_le.mpr hk]
        dsimp only
        rw [hkeep]
        split
        next hfull => exact .ended hfull
        next hroom => exact .going (Nat.not_le.mp hroom)

theorem takeLine_settled {offered found : List DomainName} (raw : String)
    (h : Settled maxListDomains offered (.ok found)) :
    Settled maxListDomains (offered ++ lineDomains raw) (takeLine found raw) := by
  have hclean : '#' ∉ (strip (beforeHash raw)).toList := fun hm =>
    beforeHash_clean raw (mem_of_mem_strip hm)
  rw [takeLine, lineDomains]
  split
  next hskip =>
    have hnone : (listedNames (words (beforeHash raw))).filterMap siteDomain = [] := by
      rcases hskip with he | hmark
      · rw [← words_strip, he]
        rfl
      · exact marked_line hmark hclean
    rw [hnone, List.append_nil]
    exact h
  next =>
    rw [← lineNames_listed, List.filterMap_eq_flatMap_toList]
    exact Settled.foldlM takeName_settled _ h

theorem parseList_firsts (text : String) :
    parseList text = firsts maxListDomains ((splitlines text).flatMap lineDomains) := by
  have hstart : Settled maxListDomains ([] : List DomainName) (.ok []) :=
    .going maxListDomains_pos
  have h := Settled.foldlM takeLine_settled (splitlines text) hstart
  rw [List.nil_append] at h
  rw [parseList]
  cases hr : (splitlines text).foldlM takeLine [] with
  | ok found => exact (hr ▸ h).eq_ok
  | error found => exact (hr ▸ h).eq_error

inductive Reading (code whole : List String) : Prop
  | same (h : whole = code) (hclean : ∀ w ∈ code, hasHash w = false)
  | glued (lead : List String) (word : String) (behind : List String)
      (hlead : ∀ w ∈ lead, hasHash w = false) (hword : hasHash word = true)
      (hcode : code = lead ++ [beforeHash word]) (hwhole : whole = lead ++ word :: behind)

theorem clean_words {raw : String} : ∀ w ∈ words (beforeHash raw), hasHash w = false := by
  intro w hw
  obtain ⟨l, hl, rfl⟩ := List.mem_map.mp hw
  rw [hasHash, decide_eq_false_iff_not, String.toList_ofList]
  exact fun hm => beforeHash_clean raw (mem_of_mem_wordLists hl hm)

theorem reading (line : String) : Reading (words (beforeHash line)) (words (withoutComment line)) := by
  rcases uncomment_cases '#' line.toList true with h | ⟨cut, post, hlast, hempty, htake, h⟩
  · refine .same ?_ clean_words
    rw [withoutComment, h]
    rfl
  · have hne : cut ≠ [] := fun hc => absurd (hempty hc) (by simp)
    obtain ⟨lead, w, tail, behind, hpre, hall⟩ := wordLists_glued (m := '#') (by decide) hne hlast
      (uncomment '#' (isSpace '#') post)
    have hcode : words (beforeHash line) = (lead ++ [w]).map String.ofList := by
      rw [words, beforeHash, String.toList_ofList, ← htake, hpre]
    have hwhole : words (withoutComment line) =
        (lead ++ (w ++ '#' :: tail) :: behind).map String.ofList := by
      rw [words, withoutComment, String.toList_ofList, h, hall]
    have hclean := @clean_words line
    rw [hcode, List.map_append] at hclean
    have hw : hasHash (String.ofList w) = false := hclean _ (by simp)
    have hcut : beforeHash (String.ofList (w ++ '#' :: tail)) = String.ofList w := by
      have hwn : ∀ c ∈ w, (decide (c ≠ '#')) = true := by
        intro c hc
        rw [hasHash, decide_eq_false_iff_not, String.toList_ofList] at hw
        rw [decide_eq_true_eq]
        rintro rfl
        exact hw hc
      rw [beforeHash, String.toList_ofList, List.takeWhile_append_of_pos hwn]
      simp
    refine .glued (lead.map String.ofList) (String.ofList (w ++ '#' :: tail))
      (behind.map String.ofList) ?_ ?_ ?_ ?_
    · exact fun v hv => hclean v (List.mem_append_left _ hv)
    · simp [hasHash]
    · rw [hcode, hcut, List.map_append]
      rfl
    · rw [hwhole, List.map_append, List.map_cons]

theorem hash_domain {word : String} (h : hasHash word = true) : siteDomain word = none :=
  hash_name (by simpa [hasHash] using h)

theorem listed_lead {lead : List String} (first : String) (rest : List String)
    (hne : rest ≠ []) : (listedNames (first :: lead ++ rest)).filterMap siteDomain =
      if isAddress first then (lead ++ rest).filterMap siteDomain else [] := by
  obtain ⟨r, rs, rfl⟩ := List.exists_cons_of_ne_nil hne
  obtain ⟨x, xs, hx⟩ : ∃ x xs, lead ++ r :: rs = x :: xs :=
    List.exists_cons_of_ne_nil (by simp)
  rw [List.cons_append, hx, listedNames]
  · cases isAddress first <;> simp
  · simp

theorem ruleName_hash {word : String} (h : hasHash word = true) :
    siteDomain (ruleName word) = none := by
  have hm : '#' ∈ word.toList := by simpa [hasHash] using h
  rw [ruleName]
  split
  next hr =>
    obtain ⟨r, rfl⟩ := startsWith_iff.mp hr.1
    rw [removePrefix_append]
    rw [endsWith_rule] at hr
    obtain ⟨name, hname⟩ := (endsWith_mark r).mp hr.2
    apply hash_name
    rw [removeSuffix_mark hname]
    rw [String.toList_append, hname] at hm
    rcases List.mem_append.mp hm with hm | hm
    · exact absurd hm (by decide)
    · rcases List.mem_append.mp hm with hm | hm
      · exact hm
      · exact absurd hm (by decide)
  next => exact hash_domain h

theorem listed_glued_first {word : String} (h : hasHash word = true) (behind : List String) :
    (listedNames (word :: behind)).filterMap siteDomain =
      (if isAddress word then behind else []).filterMap siteDomain := by
  cases behind with
  | nil => simp [listedNames, ruleName_hash h]
  | cons next rest => rfl

theorem listed_glued {first word : String} (names behind : List String)
    (h : hasHash word = true) :
    (listedNames (first :: names ++ word :: behind)).filterMap siteDomain =
      if isAddress first then names.filterMap siteDomain ++ behind.filterMap siteDomain
      else [] := by
  rw [listed_lead _ _ (by simp), List.filterMap_append, List.filterMap_cons_none (hash_domain h)]

theorem firsts_names_iff (before a b : List String) :
    firsts maxListDomains (before.filterMap siteDomain ++ a.filterMap siteDomain) =
        firsts maxListDomains (before.filterMap siteDomain ++ b.filterMap siteDomain) ↔
      newDomains before a = newDomains before b := firsts_append_iff _ _ _ _

theorem reads_whole_iff (line : String) :
    firsts maxListDomains (lineDomains line) = firsts maxListDomains (listedDomains line) ↔
      ReadsWhole line := by
  rw [lineDomains, listedDomains, ReadsWhole]
  cases reading line with
  | same h hclean =>
    have hd : (words (withoutComment line)).dropWhile (!hasHash ·) = [] := by
      rw [List.dropWhile_eq_nil_iff, h]
      exact fun w hw => by simp [hclean w hw]
    rw [h] at hd ⊢
    simp only [hd]
  | glued lead word behind hlead hword hcode hwhole =>
    have hpass : ∀ w ∈ lead, (!hasHash w) = true := fun w hw => by simp [hlead w hw]
    have ht : (lead ++ word :: behind).takeWhile (!hasHash ·) = lead := by
      rw [List.takeWhile_append_of_pos hpass, List.takeWhile_cons_of_neg (by simp [hword]),
        List.append_nil]
    have hd : (lead ++ word :: behind).dropWhile (!hasHash ·) = word :: behind := by
      rw [List.dropWhile_append_of_pos hpass, List.dropWhile_cons_of_neg (by simp [hword])]
    rw [hcode, hwhole, ht, hd]
    cases lead with
    | nil =>
      have hiff := firsts_names_iff [] [ruleName (beforeHash word)]
        (if isAddress word then behind else [])
      rw [List.filterMap_nil, List.nil_append, List.nil_append] at hiff
      rw [List.nil_append, List.nil_append, listed_glued_first hword, listedNames]
      dsimp only
      exact hiff
    | cons first names =>
      rw [listed_glued names behind hword, listed_lead _ _ (by simp)]
      dsimp only
      cases isAddress first with
      | true =>
        rw [if_pos rfl, if_pos rfl, List.filterMap_append, firsts_names_iff]
        exact ⟨fun h _ => h, fun h => h rfl⟩
      | false =>
        rw [if_neg (by simp), if_neg (by simp)]
        exact ⟨fun _ h => absurd h (by simp), fun _ => rfl⟩

theorem listDomains_firsts (text : String) :
    listDomains text = firsts maxListDomains ((splitlines text).flatMap listedDomains) :=
  (firsts_eq _ _).symm

theorem parse_list_iff (text : String) :
    (∀ part, (∀ line ∈ splitlines part, line ∈ splitlines text) →
        parseList part = listDomains part) ↔
      ∀ line ∈ splitlines text, ReadsWhole line := by
  constructor
  · intro h line hl
    rw [← reads_whole_iff]
    have hone := splitlines_line hl
    split at hone
    next he => rw [he]; rfl
    next =>
      have hpart := h line (by rw [hone]; simpa using hl)
      rw [parseList_firsts, listDomains_firsts, hone] at hpart
      simpa using hpart
  · intro h part hsub
    rw [parseList_firsts, listDomains_firsts]
    exact firsts_flatMap_congr fun line hl => (reads_whole_iff line).mpr (h line (hsub line hl))

theorem cosmetic_rule_listed :
    (parseList "example.org##.banner\n").map Subtype.val = ["example.org"] ∧
      listDomains "example.org##.banner\n" = [] := by
  decide +kernel

end VibeDPN
