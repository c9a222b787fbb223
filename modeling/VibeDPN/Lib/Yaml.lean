import VibeDPN.Lib.Scalars

namespace VibeDPN

-- a list of indented lines as the trees their indentation makes
inductive Rose (α : Type) where
  | node (indent : Nat) (label : α) (children : List (Rose α))

def Rose.indent {α : Type} : Rose α → Nat
  | .node n _ _ => n

def plant {α : Type} (line : Nat × α) (forest : List (Rose α)) : List (Rose α) :=
  .node line.1 line.2 (forest.takeWhile (line.1 < ·.indent)) ::
    forest.dropWhile (line.1 < ·.indent)

def forest {α : Type} (lines : List (Nat × α)) : List (Rose α) := lines.foldr plant []

namespace Yaml

inductive Token where
  | entry (key : String) (value : Option Scalar)
  | item (value : Option Scalar)
deriving DecidableEq

inductive Written where
  | empty
  | scalar (s : Scalar)
  | seq (items : List Written)
  | map (entries : List (String × Written))

def isKeyChar (c : Char) : Bool := ('a' ≤ c && c ≤ 'z') || Inet.isDigit c || c = '_' || c = '-'

def isKey (l : List Char) : Bool :=
  l.length ≤ 128 && l.all isKeyChar && isPlain l && !isTypedList l

def scanEntry (l : List Char) : Option Token :=
  let key := l.takeWhile (· ≠ ':')
  if isKey key then
    match l.dropWhile (· ≠ ':') with
    | [':'] => some (.entry (String.ofList key) none)
    | ':' :: ' ' :: value => (scalar value).map fun s => .entry (String.ofList key) (some s)
    | _ => none
  else none

def scanItem (n : Nat) (l : List Char) : Option (List (Nat × Token)) :=
  match scanEntry l with
  | some token => some [(n, .item none), (n + 2, token)]
  | none => if l = ['-'] then none else (scalar l).map fun s => [(n, .item (some s))]

def scan (line : List Char) : Option (List (Nat × Token)) :=
  let n := (line.takeWhile (· = ' ')).length
  if line.all isLineChar then
    match line.dropWhile (· = ' ') with
    | [] => some []
    | '#' :: _ => some []
    | '-' :: ' ' :: rest => scanItem n rest
    | body => (scanEntry body).map fun token => [(n, token)]
  else none

def tokens (lines : List String) : Option (List (Nat × Token)) :=
  (lines.mapM fun line => scan line.toList).map List.flatten

def aligned (roses : List (Rose Token)) : Bool :=
  roses.all fun r => roses.head?.any fun first => r.indent = first.indent

mutual

def block (roses : List (Rose Token)) : Option Written :=
  match entries roses with
  | some es => if aligned roses ∧ (es.map Prod.fst).Nodup then some (.map es) else none
  | none => if aligned roses then (items roses).map .seq else none

def entries : List (Rose Token) → Option (List (String × Written))
  | [] => some []
  | .node _ (.entry key value) children :: roses =>
    (nested value children).bind fun t => (entries roses).map ((key, t) :: ·)
  | .node _ (.item _) _ :: _ => none

def items : List (Rose Token) → Option (List Written)
  | [] => some []
  | .node _ (.item value) children :: roses =>
    (nested value children).bind fun t => (items roses).map (t :: ·)
  | .node _ (.entry _ _) _ :: _ => none

def nested (value : Option Scalar) : List (Rose Token) → Option Written
  | [] => some (match value with | some s => .scalar s | none => .empty)
  | child :: children =>
    match value with
    | some _ => none
    | none => block (child :: children)

end

def document (lines : List String) : Option Written :=
  (tokens lines).bind fun ts => nested none (forest ts)

section

variable (plain : String → Option Yaml)

mutual

def Written.value : Written → Option Yaml
  | .empty => some .null
  | .scalar s => s.value plain
  | .seq items => (values items).map .seq
  | .map entries => (members entries).map .map

def values : List Written → Option (List Yaml)
  | [] => some []
  | t :: items => t.value.bind fun v => (values items).map (v :: ·)

def members : List (String × Written) → Option (List (String × Yaml))
  | [] => some []
  | (key, t) :: entries => t.value.bind fun v => (members entries).map ((key, v) :: ·)

end

end

-- a reader of YAML 1.2: the plain scalars it makes strings, and what it makes of block style
structure Yaml12 (plain load : String → Option Yaml) : Prop where
  word : ∀ s, isTyped s = false → plain s = some (.str s)
  typed : ∀ s t, isTyped s = true → plain s ≠ some (.str t)
  number : ∀ n : Nat, plain (toString n) = some (.int n)
  yes : plain "true" = some (.bool true)
  no : plain "false" = some (.bool false)
  reads : ∀ lines tree, document lines = some tree → load (Text.lines lines) = tree.value plain

end Yaml

theorem forest_append {α : Type} {n : Nat} {l m : List (Nat × α)} (hl : ∀ t ∈ l, n ≤ t.1)
    (hm : ∀ t ∈ (forest m).head?, t.indent = n) : forest (l ++ m) = forest l ++ forest m := by
  induction l with
  | nil => rfl
  | cons t l ih =>
    have hn : n ≤ t.1 := hl t List.mem_cons_self
    have ih := ih fun u hu => hl u (List.mem_cons_of_mem t hu)
    have hcut : ∀ f : List (Rose α), (f ++ forest m).takeWhile (t.1 < ·.indent) =
        f.takeWhile (t.1 < ·.indent) ∧ (f ++ forest m).dropWhile (t.1 < ·.indent) =
        f.dropWhile (t.1 < ·.indent) ++ forest m := by
      intro f
      induction f with
      | nil =>
        cases hf : forest m with
        | nil => exact ⟨rfl, rfl⟩
        | cons r f =>
          have hr : r.indent = n := hm r (by simp [hf])
          have hlt : ¬ t.1 < r.indent := by omega
          simp [hlt]
      | cons r f ihf =>
        by_cases hr : t.1 < r.indent
        · simp [hr, ihf]
        · simp [hr]
    rw [forest, List.cons_append, List.foldr_cons, ← forest, ih, plant, (hcut _).1, (hcut _).2]
    rfl

namespace Yaml

-- lines that hold entries of one mapping, indented by n
def Reads (n : Nat) (lines : List String) (es : List (String × Written)) : Prop :=
  ∃ ts, tokens lines = some ts ∧ (∀ t ∈ ts, n ≤ t.1) ∧ (∀ r ∈ forest ts, r.indent = n) ∧
    entries (forest ts) = some es

def isHead (n : Nat) (key head : List Char) : Bool :=
  head = List.replicate n ' ' ++ key ++ [':', ' '] && isKey key

theorem tokens_append {a b : List String} {ts us : List (Nat × Token)} (ha : tokens a = some ts)
    (hb : tokens b = some us) : tokens (a ++ b) = some (ts ++ us) := by
  simp only [tokens, Option.map_eq_some_iff] at ha hb
  obtain ⟨xs, hxs, rfl⟩ := ha
  obtain ⟨ys, hys, rfl⟩ := hb
  rw [tokens, List.mapM_append, hxs, hys]
  simp

theorem entries_append {f g : List (Rose Token)} {es fs : List (String × Written)}
    (hf : entries f = some es) (hg : entries g = some fs) : entries (f ++ g) = some (es ++ fs) := by
  induction f generalizing es with
  | nil =>
    rw [entries, Option.some.injEq] at hf
    rw [← hf]
    exact hg
  | cons r f ih =>
    obtain ⟨n, label, children⟩ := r
    cases label with
    | item value => simp [entries] at hf
    | entry key value =>
      simp only [entries, Option.bind_eq_some_iff, Option.map_eq_some_iff] at hf
      obtain ⟨t, ht, rest, hrest, rfl⟩ := hf
      simp [entries, ht, ih hrest]

theorem Reads.append {n : Nat} {a b : List String} {ea eb : List (String × Written)}
    (ha : Reads n a ea) (hb : Reads n b eb) : Reads n (a ++ b) (ea ++ eb) := by
  obtain ⟨ts, hts, hn, hr, he⟩ := ha
  obtain ⟨us, hus, hn', hr', he'⟩ := hb
  have hf : forest (ts ++ us) = forest ts ++ forest us :=
    forest_append hn fun r hm => hr' r (List.mem_of_mem_head? hm)
  refine ⟨ts ++ us, tokens_append hts hus, ?_, ?_, ?_⟩
  · intro t ht
    rcases List.mem_append.mp ht with ht | ht
    · exact hn t ht
    · exact hn' t ht
  · intro r hm
    rw [hf, List.mem_append] at hm
    rcases hm with hm | hm
    · exact hr r hm
    · exact hr' r hm
  · rw [hf]
    exact entries_append he he'

theorem Reads.silent {n : Nat} {lines : List String} (h : tokens lines = some []) :
    Reads n lines [] :=
  ⟨[], h, by simp, by simp [forest], by simp [forest, entries]⟩

theorem Reads.quiet {n : Nat} {a b : List String} {es : List (String × Written)}
    (h : tokens a = some []) (hb : Reads n b es) : Reads n (a ++ b) es :=
  (Reads.silent h).append hb

theorem Reads.block {n : Nat} {lines : List String} {es : List (String × Written)}
    (h : Reads n lines es) (hne : es ≠ []) (hd : (es.map Prod.fst).Nodup) :
    ∃ ts, tokens lines = some ts ∧ (∀ t ∈ ts, n ≤ t.1) ∧ (∀ r ∈ forest ts, r.indent = n) ∧
      nested none (forest ts) = some (.map es) := by
  obtain ⟨ts, hts, hn, hr, he⟩ := h
  refine ⟨ts, hts, hn, hr, ?_⟩
  have ha : aligned (forest ts) = true := by
    cases hf : forest ts with
    | nil => rfl
    | cons r f =>
      rw [aligned, List.all_eq_true]
      intro x hx
      rw [hf] at hr
      simp [hr x hx, hr r List.mem_cons_self]
  cases hf : forest ts with
  | nil =>
    rw [hf, entries, Option.some.injEq] at he
    exact absurd he.symm hne
  | cons r f =>
    rw [hf] at he ha
    rw [nested, Yaml.block, he]
    simp [ha, hd]

theorem Reads.document {n : Nat} {lines : List String} {es : List (String × Written)}
    (h : Reads n lines es) (hne : es ≠ []) (hd : (es.map Prod.fst).Nodup) :
    Yaml.document lines = some (.map es) := by
  obtain ⟨ts, hts, -, -, hb⟩ := h.block hne hd
  rw [Yaml.document, hts, Option.bind_some, hb]

theorem isKey_chars {key : List Char} (h : isKey key = true) : ∀ c ∈ key, isKeyChar c = true := by
  simp only [isKey, Bool.and_eq_true, List.all_eq_true] at h
  exact h.1.1.2

theorem isKeyChar_ne {c d : Char} (h : isKeyChar c = true) (hd : isKeyChar d = false) : c ≠ d := by
  rintro rfl
  simp [h] at hd

theorem isKeyChar_line {c : Char} (h : isKeyChar c = true) : isLineChar c = true := by
  have hn : 0x20 ≤ c.toNat ∧ c.toNat ≤ 0x7e := by
    simp only [isKeyChar, Inet.isDigit, Bool.or_eq_true, Bool.and_eq_true, decide_eq_true_eq] at h
    rcases h with ((⟨h, h'⟩ | ⟨h, h'⟩) | rfl) | rfl
    · have h1 : 97 ≤ c.toNat := h
      have h2 : c.toNat ≤ 122 := h'
      omega
    · have h1 : 48 ≤ c.toNat := h
      have h2 : c.toNat ≤ 57 := h'
      omega
    · decide
    · decide
  simp [isLineChar, hn]

theorem scanEntry_value {key value : List Char} (h : isKey key = true) :
    scanEntry (key ++ ':' :: ' ' :: value) =
      (scalar value).map fun s => .entry (String.ofList key) (some s) := by
  have hc : ∀ c ∈ key, (decide (c ≠ ':')) = true := fun c hc =>
    decide_eq_true (isKeyChar_ne (isKey_chars h c hc) (by decide))
  rw [scanEntry, List.takeWhile_append_of_pos hc, List.dropWhile_append_of_pos hc]
  simp [h]

theorem scan_entry {n : Nat} {key head : List Char} {text : String} {s : Scalar}
    (hh : isHead n key head = true) (ht : text.toList.all isLineChar = true)
    (hs : scalar text.toList = some s) :
    scan (String.ofList head ++ text).toList =
      some [(n, .entry (String.ofList key) (some s))] := by
  simp only [isHead, Bool.and_eq_true, decide_eq_true_eq] at hh
  obtain ⟨hh, hk⟩ := hh
  have hc := isKey_chars hk
  obtain ⟨c, rest, hkey⟩ : ∃ c rest, key = c :: rest := by
    cases hl : key with
    | nil => simp [hl, isKey, isPlain] at hk
    | cons c rest => exact ⟨c, rest, rfl⟩
  have hne : ∀ d, isKeyChar d = false → c ≠ d := fun d hd =>
    isKeyChar_ne (hc c (by simp [hkey])) hd
  have hline : (String.ofList head ++ text).toList =
      List.replicate n ' ' ++ (key ++ ':' :: ' ' :: text.toList) := by
    rw [String.toList_append, String.toList_ofList, hh]
    simp
  have hbody : (String.ofList head ++ text).toList.dropWhile (· = ' ') =
      key ++ ':' :: ' ' :: text.toList := by
    rw [hline, List.dropWhile_append_of_pos (by simp), hkey, List.cons_append,
      List.dropWhile_cons_of_neg (by simpa using hne ' ' (by decide))]
  have hindent : ((String.ofList head ++ text).toList.takeWhile (· = ' ')).length = n := by
    rw [hline, List.takeWhile_append_of_pos (by simp), hkey, List.cons_append,
      List.takeWhile_cons_of_neg (by simpa using hne ' ' (by decide))]
    simp
  have hall : (String.ofList head ++ text).toList.all isLineChar = true := by
    rw [hline]
    simp only [List.all_append, List.all_replicate, List.all_cons, ht, Bool.and_true]
    have hkl : key.all isLineChar = true :=
      List.all_eq_true.mpr fun d hd => isKeyChar_line (hc d hd)
    simp [hkl, isLineChar]
  rw [scan, if_pos hall, hbody, hindent]
  split
  next he => simp [hkey] at he
  next he => exact absurd (by simpa [hkey] using congrArg List.head? he) (hne '#' (by decide))
  next he =>
    -- a key that opens with a dash goes on
    rw [hkey, List.cons_append, List.cons.injEq] at he
    cases rest with
    | nil => simp at he
    | cons d rest =>
      simp only [List.cons_append, List.cons.injEq] at he
      exact absurd he.2.1 (isKeyChar_ne (hc d (by simp [hkey])) (by decide))
  next =>
    rw [scanEntry_value hk, hs]
    simp

theorem tokens_cons {line : String} {lines : List String} {ts us : List (Nat × Token)}
    (h : scan line.toList = some ts) (hr : tokens lines = some us) :
    tokens (line :: lines) = some (ts ++ us) :=
  tokens_append (a := [line]) (by simp [tokens, h]) hr

theorem tokens_literal {l : List Char} {lines : List String} {ts us : List (Nat × Token)}
    (h : scan l = some ts) (hr : tokens lines = some us) :
    tokens (String.ofList l :: lines) = some (ts ++ us) :=
  tokens_cons (by rw [String.toList_ofList, h]) hr

theorem tokens_quiet {l : List Char} {lines : List String} (h : scan l = some [])
    (hr : tokens lines = some []) : tokens (String.ofList l :: lines) = some [] :=
  tokens_literal h hr

theorem tokens_line {line : String} {ts : List (Nat × Token)} (h : scan line.toList = some ts) :
    tokens [line] = some ts := by
  simp [tokens, h]

theorem Reads.flat {n : Nat} {lines : List String} {l : List (String × Scalar)}
    (h : tokens lines = some (l.map fun e => (n, .entry e.1 (some e.2)))) :
    Reads n lines (l.map fun e => (e.1, .scalar e.2)) := by
  have hf : ∀ l : List (String × Scalar),
      forest (l.map fun e => (n, Token.entry e.1 (some e.2))) =
        l.map fun e => .node n (.entry e.1 (some e.2)) [] := by
    intro l
    induction l with
    | nil => rfl
    | cons e l ih =>
      rw [List.map_cons, forest, List.foldr_cons, ← forest, ih, plant]
      cases l with
      | nil => rfl
      | cons f l => simp [Rose.indent]
  refine ⟨_, h, ?_, ?_, ?_⟩
  · intro t ht
    obtain ⟨e, -, rfl⟩ := List.mem_map.mp ht
    exact Nat.le_refl n
  · intro r hr
    rw [hf] at hr
    obtain ⟨e, -, rfl⟩ := List.mem_map.mp hr
    rfl
  · rw [hf]
    clear h
    induction l with
    | nil => simp [entries]
    | cons e l ih => simp [entries, nested, ih]

theorem Reads.cons {n : Nat} {key line : String} {lines : List String} {s : Scalar}
    {es : List (String × Written)} (h : scan line.toList = some [(n, .entry key (some s))])
    (hr : Reads n lines es) : Reads n (line :: lines) ((key, .scalar s) :: es) :=
  Reads.append (Reads.flat (l := [(key, s)]) (tokens_line h)) hr

theorem forest_under {α : Type} {n : Nat} {label : α} {l : List (Nat × α)}
    (h : ∀ r ∈ forest l, n < r.indent) :
    forest ((n, label) :: l) = [.node n label (forest l)] := by
  have ht : (forest l).takeWhile (n < ·.indent) = forest l :=
    List.takeWhile_eq_self_iff.mpr fun r hr => by simpa using h r hr
  have hd : (forest l).dropWhile (n < ·.indent) = [] :=
    List.dropWhile_eq_nil_iff.mpr fun r hr => by simpa using h r hr
  rw [forest, List.foldr_cons, ← forest, plant, ht, hd]

theorem reads_nested {n : Nat} {key line : String} {lines : List String} {ts : List (Nat × Token)}
    {t : Written} (h : scan line.toList = some [(n, .entry key none)]) (hl : tokens lines = some ts)
    (hn : ∀ t ∈ ts, n ≤ t.1) (hr : ∀ r ∈ forest ts, n < r.indent)
    (ht : nested none (forest ts) = some t) : Reads n (line :: lines) [(key, t)] := by
  refine ⟨(n, .entry key none) :: ts, tokens_append (tokens_line h) hl, ?_, ?_, ?_⟩
  · simpa using hn
  · rw [forest_under hr]
    simp [Rose.indent]
  · rw [forest_under hr]
    simp [entries, ht]

theorem Reads.under {n m : Nat} {key line : String} {lines : List String}
    {es : List (String × Written)} (hr : Reads m lines es)
    (h : scan line.toList = some [(n, .entry key none)]) (hm : n < m) (hne : es ≠ [])
    (hd : (es.map Prod.fst).Nodup) : Reads n (line :: lines) [(key, .map es)] := by
  obtain ⟨ts, hts, hn, hi, hb⟩ := hr.block hne hd
  refine reads_nested h hts (fun t ht => ?_) (fun r hm' => ?_) hb
  · exact Nat.le_of_lt (Nat.lt_of_lt_of_le hm (hn t ht))
  · rw [hi r hm']
    exact hm

theorem scan_name {n : Nat} {key head : List Char} {s : String} (hh : isHead n key head = true)
    (hs : isName s = true) :
    scan (String.ofList head ++ s).toList =
      some [(n, .entry (String.ofList key) (some (.word (.plain s))))] :=
  scan_entry hh (line_name hs) (scalar_name hs)

theorem Reads.nil {n : Nat} : Reads n [] [] := Reads.silent rfl

theorem Reads.literal {n : Nat} {key : String} {l : List Char} {s : Scalar} {lines : List String}
    {es : List (String × Written)} (hr : Reads n lines es)
    (h : scan l = some [(n, .entry key (some s))]) :
    Reads n (String.ofList l :: lines) ((key, .scalar s) :: es) :=
  Reads.cons (by rw [String.toList_ofList, h]) hr

def leaf (s : String) : Written := .scalar (.word (.plain s))

theorem Reads.name {n : Nat} {key head : List Char} {s : String} {lines : List String}
    {es : List (String × Written)} (hr : Reads n lines es) (hh : isHead n key head = true)
    (hs : isName s = true) :
    Reads n ((String.ofList head ++ s) :: lines) ((String.ofList key, leaf s) :: es) :=
  Reads.cons (scan_name hh hs) hr

theorem Reads.section {n m : Nat} {head : List Char} {key : String} {lines : List String}
    {e : List (String × Written)} (hr : Reads m lines e)
    (hh : scan head = some [(n, .entry key none)]) (hm : n < m) (hne : e ≠ [])
    (hd : (e.map Prod.fst).Nodup) : Reads n (String.ofList head :: lines) [(key, .map e)] :=
  hr.under (by rw [String.toList_ofList, hh]) hm hne hd

theorem members_append {plain : String → Option Yaml} {es fs : List (String × Written)}
    {ys zs : List (String × Yaml)} (he : members plain es = some ys)
    (hf : members plain fs = some zs) : members plain (es ++ fs) = some (ys ++ zs) := by
  induction es generalizing ys with
  | nil =>
    rw [members, Option.some.injEq] at he
    rw [← he]
    exact hf
  | cons e es ih =>
    obtain ⟨key, t⟩ := e
    simp only [members, Option.bind_eq_some_iff, Option.map_eq_some_iff] at he
    obtain ⟨v, hv, rest, hrest, rfl⟩ := he
    simp [members, hv, ih hrest]

-- a reader of that kind, for a text that block style alone makes up
def plainCore (s : String) : Option Yaml :=
  if s.toList ≠ [] ∧ s.toList.all Inet.isDigit then some (.int (Nat.ofDigitChars 10 s.toList 0))
  else if s = "true" then some (.bool true)
  else if s = "false" then some (.bool false)
  else if isTyped s then some .other
  else some (.str s)

def loadCore (text : String) : Option Yaml :=
  (document (Text.split '\n' text).dropLast).bind (Written.value plainCore)

theorem isTyped_digits {s : String} (hne : s.toList ≠ []) (h : s.toList.all Inet.isDigit = true) :
    isTyped s = true := by
  obtain ⟨c, l, hl⟩ := List.exists_cons_of_ne_nil hne
  rw [hl, List.all_eq_true] at h
  have hc : Inet.isDigit c = true := h c List.mem_cons_self
  have hu : unsigned (c :: l) = c :: l := by
    simp [unsigned, isSign, digit_ne hc (show Inet.isDigit '+' = false by decide),
      digit_ne hc (show Inet.isDigit '-' = false by decide)]
  have hs : ∀ d, Inet.isDigit d = false → d ∉ c :: l := fun d hd hm => digit_ne (h d hm) hd rfl
  have hint : spellsInt (c :: l) = true := by
    rw [spellsInt, hu, List.head?_cons, Option.any_some, hc, Bool.true_or, Bool.true_and]
    split
    next r he => exact absurd (by simp [he]) (hs 'b' (by decide))
    next r he => exact absurd (by simp [he]) (hs 'o' (by decide))
    next r he => exact absurd (by simp [he]) (hs 'x' (by decide))
    next =>
      rw [some1, Bool.and_eq_true, List.all_eq_true]
      exact ⟨by simp, fun d hd => by simp [isDigit_, h d hd]⟩
  simp [isTyped, isTypedList, hl, hint]

theorem split_lines {lines : List String} (h : ∀ line ∈ lines, '\n' ∉ line.toList) :
    (Text.split '\n' (Text.lines lines)).dropLast = lines := by
  have hs : (Text.lines lines).toList.splitOn '\n' = lines.map String.toList ++ [[]] := by
    induction lines with
    | nil => rfl
    | cons line lines ih =>
      have hl : (Text.lines (line :: lines)).toList =
          line.toList ++ '\n' :: (Text.lines lines).toList := by
        simp [Text.lines, String.join_cons]
      rw [hl, List.splitOn_append_cons_self_of_not_mem (h line List.mem_cons_self),
        ih fun m hm => h m (List.mem_cons_of_mem line hm)]
      rfl
  rw [Text.split, hs]
  simp [Function.comp_def]

theorem document_unbroken {lines : List String} {t : Written} (h : document lines = some t) :
    ∀ line ∈ lines, '\n' ∉ line.toList := by
  rw [document, Option.bind_eq_some_iff] at h
  obtain ⟨ts, hts, -⟩ := h
  rw [tokens, Option.map_eq_some_iff] at hts
  obtain ⟨scans, hscans, -⟩ := hts
  intro line hl hn
  have hsome : ∃ s, scan line.toList = some s := by
    clear hn
    induction lines generalizing scans with
    | nil => simp at hl
    | cons m lines ih =>
      rw [List.mapM_cons] at hscans
      simp only [Option.pure_def, Option.bind_eq_bind, Option.bind_eq_some_iff] at hscans
      obtain ⟨s, hs, rest, hrest, -⟩ := hscans
      rcases List.mem_cons.mp hl with rfl | hl
      · exact ⟨s, hs⟩
      · exact ih rest hrest hl
  obtain ⟨s, hs⟩ := hsome
  rw [scan] at hs
  split at hs
  next hall => exact absurd (List.all_eq_true.mp hall '\n' hn) (by decide)
  next => cases hs

theorem yaml12_core : Yaml12 plainCore loadCore where
  word s hs := by
    have hd : ¬ (s.toList ≠ [] ∧ s.toList.all Inet.isDigit = true) := fun hd => by
      simp [isTyped_digits hd.1 hd.2] at hs
    have ht : s ≠ "true" := by
      rintro rfl
      exact absurd hs (by decide)
    have hf : s ≠ "false" := by
      rintro rfl
      exact absurd hs (by decide)
    rw [plainCore, if_neg hd, if_neg ht, if_neg hf, if_neg (by simp [hs])]
  typed s t hs := by
    rw [plainCore]
    split
    · simp
    split
    · simp
    split
    · simp
    · simp
  number n := by
    rw [plainCore, if_pos ⟨number_ne n, List.all_eq_true.mpr (number_digits n)⟩]
    rw [show (toString n).toList = Nat.toDigits 10 n from Nat.toList_repr,
      Nat.ofDigitChars_ten_toDigits]
  yes := by rw [plainCore, if_neg (by decide), if_pos rfl]
  no := by rw [plainCore, if_neg (by decide), if_neg (by decide), if_pos rfl]
  reads lines t h := by
    rw [loadCore, split_lines (document_unbroken h), h, Option.bind_some]

end Yaml

end VibeDPN
