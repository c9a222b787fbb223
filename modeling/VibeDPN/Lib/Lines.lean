import VibeDPN.Lib.Text

namespace VibeDPN.Text

def isBreak (c : Char) : Bool :=
  (10 ≤ c.toNat && c.toNat ≤ 13) || (28 ≤ c.toNat && c.toNat ≤ 30) || c.toNat = 133 ||
    c.toNat = 8232 || c.toNat = 8233

def lineLists : List Char → List (List Char)
  | [] => []
  | '\r' :: '\n' :: l => [] :: lineLists l
  | c :: l =>
      if isBreak c then [] :: lineLists l
      else (c :: (lineLists l).headD []) :: (lineLists l).tail

def splitlines (s : String) : List String := (lineLists s.toList).map String.ofList

-- a text file as it is read: each line end is a line feed
def lineFeeds : List Char → List Char
  | [] => []
  | '\r' :: '\n' :: l => '\n' :: lineFeeds l
  | c :: l => (if c = '\r' then '\n' else c) :: lineFeeds l

def wordLists (l : List Char) : List (List Char) := (l.splitOnP isSpace).filter (· ≠ [])

def words (s : String) : List String := (wordLists s.toList).map String.ofList

def endsWith (s p : String) : Bool := p.toList.isSuffixOf s.toList

def removeSuffix (s p : String) : String :=
  if endsWith s p then String.ofList (s.toList.take (s.toList.length - p.toList.length)) else s

-- up to the first mark that opens the line or stands behind white space
def uncomment (mark : Char) : Bool → List Char → List Char
  | _, [] => []
  | behind, c :: l => if c = mark ∧ behind then [] else c :: uncomment mark (isSpace c) l

theorem break_free {l : List Char} : ∀ line ∈ lineLists l, ∀ c ∈ line, isBreak c = false := by
  induction l using lineLists.induct with
  | case1 => simp [lineLists]
  | case2 l ih =>
    intro line hl
    rcases List.mem_cons.mp (by simpa [lineLists] using hl) with rfl | hl
    · simp
    · exact ih line hl
  | case3 c l hcr hb ih =>
    intro line hl
    rw [lineLists, if_pos hb] at hl
    · rcases List.mem_cons.mp hl with rfl | hl
      · simp
      · exact ih line hl
    · exact hcr
  | case4 c l hcr hb ih =>
    intro line hl
    rw [lineLists, if_neg hb] at hl
    · rcases List.mem_cons.mp hl with rfl | hl
      · intro d hd
        rcases List.mem_cons.mp hd with rfl | hd
        · simpa using hb
        · cases hls : lineLists l with
          | nil => simp [hls] at hd
          | cons h t => exact ih h (by simp [hls]) d (by simpa [hls] using hd)
      · exact ih line (List.mem_of_mem_tail hl)
    · exact hcr

theorem lineLists_cons {c : Char} (hc : c ≠ '\r') (l : List Char) :
    lineLists (c :: l) =
      if isBreak c then [] :: lineLists l
      else (c :: (lineLists l).headD []) :: (lineLists l).tail := by
  rw [lineLists]
  rintro l' rfl
  exact absurd rfl hc

theorem lineLists_lineFeeds (l : List Char) : lineLists (lineFeeds l) = lineLists l := by
  induction l using lineFeeds.induct with
  | case1 => rfl
  | case2 l ih =>
    rw [lineFeeds, lineLists, lineLists_cons (by decide), if_pos (by decide), ih]
  | case3 c l hcr ih =>
    rw [lineFeeds]
    · by_cases hc : c = '\r'
      · rw [if_pos hc, lineLists_cons (by decide), if_pos (by decide), ih, lineLists]
        · rw [if_pos (by rw [hc]; decide)]
        · exact hcr
      · rw [if_neg hc, lineLists_cons hc, lineLists_cons hc, ih]
    · exact hcr

theorem lineLists_line {l : List Char} (hne : l ≠ []) (h : ∀ c ∈ l, isBreak c = false) :
    lineLists l = [l] := by
  induction l with
  | nil => exact absurd rfl hne
  | cons c l ih =>
    have hc := h c (by simp)
    rw [lineLists, if_neg (by simp [hc])]
    · cases l with
      | nil => simp [lineLists]
      | cons d l => rw [ih (by simp) (fun x hx => h x (by simp [hx]))]; simp
    · rintro l' rfl
      exact absurd hc (by decide)

theorem splitlines_line {s line : String} (h : line ∈ splitlines s) :
    splitlines line = if line = "" then [] else [line] := by
  obtain ⟨l, hl, rfl⟩ := List.mem_map.mp h
  split
  next he => rw [he]; rfl
  next he =>
    rw [splitlines, String.toList_ofList, lineLists_line _ (break_free l hl)]
    · rfl
    · rintro rfl
      exact he rfl

@[simp] theorem wordLists_nil : wordLists [] = [] := by simp [wordLists]

theorem wordLists_append_space {c : Char} (hc : isSpace c = true) (a b : List Char) :
    wordLists (a ++ c :: b) = wordLists a ++ wordLists b := by
  rw [wordLists, List.splitOnP_append_cons _ _ hc, List.filter_append]
  rfl

theorem wordLists_cons_space {c : Char} (hc : isSpace c = true) (l : List Char) :
    wordLists (c :: l) = wordLists l := by
  simpa using wordLists_append_space hc [] l

theorem wordLists_word {w : List Char} (hne : w ≠ []) (h : ∀ c ∈ w, isSpace c = false) :
    wordLists w = [w] := by
  rw [wordLists, List.splitOnP_eq_singleton h]
  simp [hne]

theorem wordLists_word_append {w rest : List Char} (hne : w ≠ [])
    (h : ∀ c ∈ w, isSpace c = false) (hr : ∀ c ∈ rest.head?, isSpace c = true) :
    wordLists (w ++ rest) = w :: wordLists rest := by
  cases rest with
  | nil => simp [wordLists_word hne h]
  | cons c rest =>
    have hc := hr c rfl
    rw [wordLists_append_space hc, wordLists_word hne h, wordLists_cons_space hc]
    rfl

theorem wordLists_append_word {lead w : List Char} (hl : ∀ c ∈ lead.getLast?, isSpace c = true) :
    wordLists (lead ++ w) = wordLists lead ++ wordLists w := by
  induction lead using List.reverseRecOn with
  | nil => simp
  | append_singleton lead c =>
    have hc := hl c (by simp)
    rw [List.append_assoc, List.singleton_append, wordLists_append_space hc,
      wordLists_append_space hc, wordLists_nil, List.append_nil]

theorem wordLists_spaces_append {a : List Char} (h : ∀ c ∈ a, isSpace c = true) (b : List Char) :
    wordLists (a ++ b) = wordLists b := by
  induction a with
  | nil => rfl
  | cons c a ih =>
    rw [List.cons_append, wordLists_cons_space (h c (by simp))]
    exact ih fun d hd => h d (by simp [hd])

theorem wordLists_append_spaces {b : List Char} (h : ∀ c ∈ b, isSpace c = true) (a : List Char) :
    wordLists (a ++ b) = wordLists a := by
  cases b with
  | nil => simp
  | cons c b =>
    rw [wordLists_append_space (h c (by simp))]
    have hb : wordLists (b ++ []) = wordLists [] :=
      wordLists_spaces_append (fun d hd => h d (by simp [hd])) []
    rw [List.append_nil] at hb
    simp [hb]

theorem mem_takeWhile {p : Char → Bool} {l : List Char} : ∀ c ∈ l.takeWhile p, p c = true :=
  fun _ hc => List.mem_takeWhile_imp hc

theorem mem_rtakeWhile {p : Char → Bool} {l : List Char} : ∀ c ∈ l.rtakeWhile p, p c = true := by
  intro c hc
  exact List.mem_takeWhile_imp (List.mem_reverse.mp hc)

theorem wordLists_stripList (l : List Char) : wordLists (stripList isSpace l) = wordLists l := by
  have hr := List.rdropWhile_append_rtakeWhile (p := isSpace) (l := l.dropWhile isSpace)
  have hd := List.takeWhile_append_dropWhile (p := isSpace) (l := l)
  calc wordLists (stripList isSpace l)
      = wordLists (stripList isSpace l ++ (l.dropWhile isSpace).rtakeWhile isSpace) :=
        (wordLists_append_spaces mem_rtakeWhile _).symm
    _ = wordLists (l.dropWhile isSpace) := by rw [stripList, hr]
    _ = wordLists (l.takeWhile isSpace ++ l.dropWhile isSpace) :=
        (wordLists_spaces_append mem_takeWhile _).symm
    _ = wordLists l := by rw [hd]

theorem mem_stripList {p : Char → Bool} {l : List Char} {c : Char} (h : c ∈ l) (hp : p c = false) :
    c ∈ stripList p l := by
  rw [← List.takeWhile_append_dropWhile (p := p) (l := l),
    ← List.rdropWhile_append_rtakeWhile (p := p) (l := l.dropWhile p)] at h
  rcases List.mem_append.mp h with h | h
  · exact absurd (mem_takeWhile c h) (by simp [hp])
  · rcases List.mem_append.mp h with h | h
    · exact h
    · exact absurd (mem_rtakeWhile c h) (by simp [hp])

theorem stripList_head (p : Char → Bool) (l : List Char) :
    ∀ c ∈ (stripList p l).head?, p c = false := by
  intro c hc
  have hd := List.head?_dropWhile_not p l
  have hm := List.rdropWhile_append_rtakeWhile (p := p) (l := l.dropWhile p)
  cases hs : stripList p l with
  | nil => simp [hs] at hc
  | cons d m =>
    rw [stripList] at hs
    rw [← hm, hs] at hd
    have hcd : d = c := by simpa [stripList, hs] using hc
    simpa [hcd] using hd

theorem stripList_last (p : Char → Bool) (l : List Char) :
    ∀ c ∈ (stripList p l).getLast?, p c = false := by
  intro c hc
  have hne : stripList p l ≠ [] := by
    rintro h
    simp [h] at hc
  have hl := List.rdropWhile_last_not p (l.dropWhile p) hne
  rw [List.getLast?_eq_some_getLast hne, Option.mem_some_iff] at hc
  rw [← hc]
  exact Bool.not_eq_true _ ▸ hl

theorem wordLists_first {l : List Char} (hne : l ≠ []) (hh : ∀ c ∈ l.head?, isSpace c = false) :
    wordLists l =
      l.takeWhile (!isSpace ·) :: wordLists (l.dropWhile (!isSpace ·)) := by
  have hd := List.head?_dropWhile_not (!isSpace ·) l
  have hw : wordLists (l.takeWhile (!isSpace ·) ++ l.dropWhile (!isSpace ·)) =
      l.takeWhile (!isSpace ·) :: wordLists (l.dropWhile (!isSpace ·)) := by
    apply wordLists_word_append
    · obtain ⟨c, m, rfl⟩ := List.exists_cons_of_ne_nil hne
      simp [hh c rfl]
    · intro c hc
      simpa using mem_takeWhile c hc
    · intro c hc
      rw [hc] at hd
      simpa using hd
  rwa [List.takeWhile_append_dropWhile] at hw

theorem wordLists_eq_nil {l : List Char} (h : wordLists l = []) :
    ∀ c ∈ l, isSpace c = true := by
  induction l with
  | nil => simp
  | cons c l ih =>
    cases hc : isSpace c with
    | true =>
      rw [wordLists_cons_space hc] at h
      intro d hd
      rcases List.mem_cons.mp hd with rfl | hd
      · exact hc
      · exact ih h d hd
    | false =>
      rw [wordLists_first (by simp) (by simpa using hc)] at h
      exact absurd h (by simp)

theorem stripped_word {l w : List Char} (hh : ∀ c ∈ l.head?, isSpace c = false)
    (hl : ∀ c ∈ l.getLast?, isSpace c = false) (h : wordLists l = [w]) : l = w := by
  have hne : l ≠ [] := by
    rintro rfl
    simp at h
  rw [wordLists_first hne hh, List.cons.injEq] at h
  have hspace := wordLists_eq_nil h.2
  have hparts := List.takeWhile_append_dropWhile (p := (!isSpace ·)) (l := l)
  have hd : l.dropWhile (!isSpace ·) = [] := by
    by_contra hd
    have hlast : (l.dropWhile (!isSpace ·)).getLast hd ∈
        (l.takeWhile (!isSpace ·) ++ l.dropWhile (!isSpace ·)).getLast? := by
      rw [List.getLast?_append, List.getLast?_eq_some_getLast hd]
      rfl
    rw [hparts] at hlast
    have hs := hspace _ (List.getLast_mem hd)
    rw [hl _ hlast] at hs
    exact absurd hs (by simp)
  rw [← h.1]
  rwa [hd, List.append_nil, eq_comm] at hparts

theorem words_strip (s : String) : words (strip s) = words s := by
  rw [words, strip, toList_stripBy, wordLists_stripList]
  rfl

theorem flatten_wordLists (l : List Char) : (wordLists l).flatten = l.filter (!isSpace ·) := by
  rw [wordLists, List.flatten_filter_ne_nil]
  induction l with
  | nil => simp
  | cons c l ih =>
    rw [List.splitOnP_cons_eq_if_modifyHead]
    cases hc : isSpace c with
    | true => simpa [hc] using ih
    | false =>
      obtain ⟨p, ps, hp⟩ := List.exists_cons_of_ne_nil (List.splitOnP_ne_nil isSpace l)
      rw [hp] at ih ⊢
      simpa [hc] using ih

theorem mem_of_mem_wordLists {l w : List Char} {c : Char} (hw : w ∈ wordLists l) (hc : c ∈ w) :
    c ∈ l := by
  have h : c ∈ (wordLists l).flatten := List.mem_flatten.mpr ⟨w, hw, hc⟩
  rw [flatten_wordLists] at h
  exact List.mem_of_mem_filter h

theorem wordLists_glued {pre : List Char} {m : Char} (hm : isSpace m = false) (hne : pre ≠ [])
    (hl : ∀ c ∈ pre.getLast?, isSpace c = false) (post : List Char) :
    ∃ lead w tail behind, wordLists pre = lead ++ [w] ∧
      wordLists (pre ++ m :: post) = lead ++ (w ++ m :: tail) :: behind := by
  have hparts := List.rdropWhile_append_rtakeWhile (p := (!isSpace ·)) (l := pre)
  have hlead : ∀ c ∈ (pre.rdropWhile (!isSpace ·)).getLast?, isSpace c = true := by
    intro c hc
    have hd : pre.rdropWhile (!isSpace ·) ≠ [] := by
      rintro h
      simp [h] at hc
    have hn := List.rdropWhile_last_not (!isSpace ·) pre hd
    rw [List.getLast?_eq_some_getLast hd, Option.mem_some_iff] at hc
    rw [hc] at hn
    simpa using hn
  have hw : ∀ c ∈ pre.rtakeWhile (!isSpace ·), isSpace c = false := fun c hc => by
    simpa using mem_rtakeWhile c hc
  have hwne : pre.rtakeWhile (!isSpace ·) ≠ [] := by
    intro hr
    rw [hr, List.append_nil] at hparts
    rw [hparts, List.getLast?_eq_some_getLast hne] at hlead
    rw [List.getLast?_eq_some_getLast hne] at hl
    have hlast := hlead _ rfl
    rw [hl _ rfl] at hlast
    exact absurd hlast (by simp)
  have hword : ∀ c ∈ pre.rtakeWhile (!isSpace ·) ++ m :: post.takeWhile (!isSpace ·),
      isSpace c = false := by
    intro c hc
    rcases List.mem_append.mp hc with hc | hc
    · exact hw c hc
    · rcases List.mem_cons.mp hc with rfl | hc
      · exact hm
      · simpa using mem_takeWhile c hc
  refine ⟨wordLists (pre.rdropWhile (!isSpace ·)), pre.rtakeWhile (!isSpace ·),
    post.takeWhile (!isSpace ·), wordLists (post.dropWhile (!isSpace ·)), ?_, ?_⟩
  · rw [← wordLists_word hwne hw, ← wordLists_append_word hlead, hparts]
  · have hbehind : ∀ c ∈ (post.dropWhile (!isSpace ·)).head?, isSpace c = true := by
      intro c hc
      have hd := List.head?_dropWhile_not (!isSpace ·) post
      rw [hc] at hd
      simpa using hd
    rw [← wordLists_word_append (by simp) hword hbehind, ← wordLists_append_word hlead,
      List.append_assoc, ← List.append_assoc, hparts, List.cons_append,
      List.takeWhile_append_dropWhile]

theorem uncomment_cases (mark : Char) (l : List Char) :
    ∀ behind, uncomment mark behind l = l.takeWhile (· ≠ mark) ∨
      ∃ cut post, (∀ c ∈ cut.getLast?, isSpace c = false) ∧ (cut = [] → behind = false) ∧
        cut = l.takeWhile (· ≠ mark) ∧
        uncomment mark behind l = cut ++ mark :: uncomment mark (isSpace mark) post := by
  induction l with
  | nil => simp [uncomment]
  | cons c l ih =>
    intro behind
    by_cases hc : c = mark
    · cases behind with
      | true => left; simp [uncomment, hc]
      | false => exact .inr ⟨[], l, by simp [uncomment, hc]⟩
    · have ht : (c :: l).takeWhile (· ≠ mark) = c :: l.takeWhile (· ≠ mark) := by simp [hc]
      have hu : uncomment mark behind (c :: l) = c :: uncomment mark (isSpace c) l := by
        simp [uncomment, hc]
      rw [ht, hu]
      rcases ih (isSpace c) with h | ⟨cut, post, hlast, hempty, htake, h⟩
      · exact .inl (by rw [h])
      · refine .inr ⟨c :: cut, post, ?_, by simp, by rw [htake], by rw [h]; rfl⟩
        cases cut with
        | nil => simpa using hempty rfl
        | cons d cut => simpa using hlast

end VibeDPN.Text
