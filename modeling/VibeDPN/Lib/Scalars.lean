import VibeDPN.Lib.Inet
import VibeDPN.Lib.Json

namespace VibeDPN

inductive Yaml where
  | null
  | bool (b : Bool)
  | int (n : Nat)
  | str (s : String)
  -- a number in another notation, a date, a text that is not Unicode
  | other
  | seq (items : List Yaml)
  | map (entries : List (String × Yaml))

namespace Yaml

open Inet (isDigit)

def some1 (p : Char → Bool) (l : List Char) : Bool := l ≠ [] && l.all p

def isDigit_ (c : Char) : Bool := isDigit c || c = '_'

def isHex_ (c : Char) : Bool :=
  isDigit_ c || ('a' ≤ c && c ≤ 'f') || ('A' ≤ c && c ≤ 'F')

def isSign (c : Char) : Bool := c = '+' || c = '-'

def unsigned : List Char → List Char
  | c :: l => if isSign c then l else c :: l
  | [] => []

def spellsNull (l : List Char) : Bool :=
  [[], ['~'], ['n', 'u', 'l', 'l'], ['N', 'u', 'l', 'l'], ['N', 'U', 'L', 'L']].contains l

def spellsBool (l : List Char) : Bool :=
  [['t', 'r', 'u', 'e'], ['T', 'r', 'u', 'e'], ['T', 'R', 'U', 'E'],
    ['f', 'a', 'l', 's', 'e'], ['F', 'a', 'l', 's', 'e'], ['F', 'A', 'L', 'S', 'E']].contains l

def spellsInt (l : List Char) : Bool :=
  l.head?.any (fun c => isDigit c || isSign c) &&
    match unsigned l with
    | '0' :: 'b' :: r => some1 (fun c => c = '0' || c = '1' || c = '_') r
    | '0' :: 'o' :: r => some1 (fun c => ('0' ≤ c && c ≤ '7') || c = '_') r
    | '0' :: 'x' :: r => some1 isHex_ r
    | r => some1 isDigit_ r

def isExponent (signed : Bool) : List Char → Bool
  | c :: r => (c = 'e' || c = 'E') &&
      (!signed || r.head?.any isSign) && some1 isDigit (unsigned r)
  | [] => false

def spellsFloat (l : List Char) : Bool :=
  let r := unsigned l
  (r.head?.any isDigit &&
    match r.dropWhile isDigit_ with
    | '.' :: t => t.dropWhile isDigit_ = [] || isExponent false (t.dropWhile isDigit_)
    | t => isExponent false t) ||
  (match r with
    | '.' :: t =>
      (some1 isDigit_ (t.takeWhile isDigit_) &&
        (t.dropWhile isDigit_ = [] || isExponent true (t.dropWhile isDigit_))) ||
      [['i', 'n', 'f'], ['I', 'n', 'f'], ['I', 'N', 'F']].contains t
    | _ => false) ||
  [['.', 'n', 'a', 'n'], ['.', 'N', 'a', 'N'], ['.', 'N', 'A', 'N']].contains l

def isCount (lo hi : Nat) (l : List Char) : Bool :=
  lo ≤ l.length && l.length ≤ hi && l.all isDigit

def spellsDay (lo : Nat) (l : List Char) : Bool :=
  match l.splitOn '-' with
  | [y, m, d] => isCount 4 4 y && isCount lo 2 m && isCount lo 2 d
  | _ => false

def isBlankChar (c : Char) : Bool := c = ' ' || c = '\t'

def isZone : List Char → Bool
  | ['Z'] => true
  | c :: r => isSign c &&
      match r.splitOn ':' with
      | [h] => isCount 1 2 h
      | [h, m] => isCount 1 2 h && isCount 2 2 m
      | _ => false
  | [] => false

def spellsTime (l : List Char) : Bool :=
  let rest := l.dropWhile fun c => isDigit c || c = ':'
  let zone := if rest.head? = some '.' then rest.tail.dropWhile isDigit else rest
  (match (l.takeWhile fun c => isDigit c || c = ':').splitOn ':' with
    | [h, m, s] => isCount 1 2 h && isCount 2 2 m && isCount 2 2 s
    | _ => false) &&
  (zone = [] || isZone (zone.dropWhile isBlankChar))

def spellsDate (l : List Char) : Bool :=
  spellsDay 2 l ||
    (spellsDay 1 (l.takeWhile fun c => isDigit c || c = '-') &&
      match l.dropWhile fun c => isDigit c || c = '-' with
      | c :: r => (c = 'T' || c = 't') && spellsTime r ||
          isBlankChar c && spellsTime (r.dropWhile isBlankChar)
      | [] => false)

def isTypedList (l : List Char) : Bool :=
  [['-'], ['='], ['<', '<']].contains l || spellsNull l || spellsBool l || spellsInt l || spellsFloat l ||
    spellsDate l

def isTyped (s : String) : Bool := isTypedList s.toList

def isLineChar (c : Char) : Bool :=
  (0x20 ≤ c.toNat && c.toNat ≤ 0x7e) ||
    (0xa0 ≤ c.toNat && c.toNat ≤ 0xd7ff && c.toNat ≠ 0x2028 && c.toNat ≠ 0x2029) ||
    (0xe000 ≤ c.toNat && c.toNat ≤ 0xfffd && c.toNat ≠ 0xfeff) || 0x10000 ≤ c.toNat

def indicators : List Char :=
  [',', '[', ']', '{', '}', '#', '&', '*', '!', '|', '>', '\'', '"', '%', '@', '\u0060', ' ']

def hasPair (a b : Char) (l : List Char) : Bool := (a, b) ∈ l.zip l.tail

-- the forms of a plain scalar that stands on one line
def isPlain (l : List Char) : Bool :=
  match l with
  | [] => false
  | c :: r => c ∉ indicators && !(c ∈ ['-', '?', ':'] && r.head? = some ' ') &&
      !(c ∈ ['?', ':'] && r = []) && l.getLast? ≠ some ':' && l.getLast? ≠ some ' ' &&
      !hasPair ':' ' ' l && !hasPair ' ' '#' l

def isQuotedBody : List Char → Bool
  | '\\' :: 'u' :: a :: b :: c :: d :: rest =>
    [a, b, c, d].all (fun x => isDigit x || ('a' ≤ x && x ≤ 'f')) && isQuotedBody rest
  | '\\' :: c :: rest => c ∈ ['"', '\\', 'n', 'r', 't', 'f', 'b'] && isQuotedBody rest
  | ['\\'] => false
  | c :: rest => c ≠ '"' && isQuotedBody rest
  | [] => true

-- each escape is a code unit of its own
def readUnits : List Char → List Nat
  | '\\' :: 'u' :: a :: b :: c :: d :: rest => (Json.readUnit [a, b, c, d]).1 :: readUnits rest
  | '\\' :: c :: rest => (Json.unescape c).toNat :: readUnits rest
  | c :: rest => c.toNat :: readUnits rest
  | [] => []

def unitsValue (units : List Nat) : Yaml :=
  if ∀ n ∈ units, n.isValidChar then .str (String.ofList (units.map Char.ofNat)) else .other

inductive Word where
  | plain (text : String)
  | quoted (body : List Char)
deriving DecidableEq

inductive Scalar where
  | word (w : Word)
  | flow (items : List Word)
deriving DecidableEq

def word (l : List Char) : Option Word :=
  if l.head? = some '"' then
    if 2 ≤ l.length ∧ l.getLast? = some '"' ∧ isQuotedBody l.tail.dropLast then
      some (.quoted l.tail.dropLast)
    else none
  else if isPlain l then some (.plain (String.ofList l))
  else none

def flowWord (l : List Char) : Option Word :=
  let r := l.dropWhile (· = ' ')
  if r.all (fun c => c ∉ ['[', ']', '{', '}']) ∧ r.head? ∉ [some '-', some '?', some ':'] then word r
  else none

def flowWords (l : List Char) : Option (List Word) :=
  if l = [] then some [] else (l.splitOn ',').mapM flowWord

def scalar (l : List Char) : Option Scalar :=
  if l.head? = some '[' then
    if 2 ≤ l.length ∧ l.getLast? = some ']' then (flowWords l.tail.dropLast).map .flow else none
  else (word l).map .word

variable (plain : String → Option Yaml)

def Word.value : Word → Option Yaml
  | .plain text => plain text
  | .quoted body => some (unitsValue (readUnits body))

def Scalar.value : Scalar → Option Yaml
  | .word w => w.value plain
  | .flow items => (items.mapM (Word.value plain)).map .seq

def isNameChar (c : Char) : Bool :=
  ('a' ≤ c && c ≤ 'z') || ('A' ≤ c && c ≤ 'Z') || isDigit c || c ∈ ['.', '_', '-', '/']

theorem isNameChar_ne {c d : Char} (h : isNameChar c = true) (hd : isNameChar d = false) : c ≠ d := by
  rintro rfl
  simp [h] at hd

theorem isNameChar_graphic {c : Char} (h : isNameChar c = true) :
    33 ≤ c.toNat ∧ c.toNat ≤ 126 := by
  simp only [isNameChar, isDigit, Bool.or_eq_true, Bool.and_eq_true, decide_eq_true_eq] at h
  rcases h with ((⟨h, h'⟩ | ⟨h, h'⟩) | ⟨h, h'⟩) | h
  · have h1 : 97 ≤ c.toNat := h
    have h2 : c.toNat ≤ 122 := h'
    omega
  · have h1 : 65 ≤ c.toNat := h
    have h2 : c.toNat ≤ 90 := h'
    omega
  · have h1 : 48 ≤ c.toNat := h
    have h2 : c.toNat ≤ 57 := h'
    omega
  · simp only [List.mem_cons, List.not_mem_nil, or_false] at h
    rcases h with rfl | rfl | rfl | rfl
    all_goals decide

theorem isNameChar_line {c : Char} (h : isNameChar c = true) : isLineChar c = true := by
  have hn := isNameChar_graphic h
  have h1 : 0x20 ≤ c.toNat := by omega
  simp [isLineChar, h1, hn.2]

theorem hasPair_name {a b : Char} {l : List Char} (h : ∀ c ∈ l, isNameChar c = true)
    (hab : isNameChar a = false ∨ isNameChar b = false) : hasPair a b l = false := by
  rw [hasPair, decide_eq_false_iff_not]
  intro hm
  have hz := List.of_mem_zip hm
  rcases hab with ha | hb
  · exact isNameChar_ne (h a hz.1) ha rfl
  · exact isNameChar_ne (h b (List.mem_of_mem_tail hz.2)) hb rfl

theorem isPlain_name {l : List Char} (hne : l ≠ []) (h : ∀ c ∈ l, isNameChar c = true) :
    isPlain l = true := by
  obtain ⟨c, r, rfl⟩ := List.exists_cons_of_ne_nil hne
  have hc : ∀ d, isNameChar d = false → c ≠ d := fun d hd => isNameChar_ne (h c (by simp)) hd
  have hlast : ∀ d, isNameChar d = false → (c :: r).getLast? ≠ some d := fun d hd hl =>
    isNameChar_ne (h d (List.mem_of_getLast? hl)) hd rfl
  have hhead : r.head? ≠ some ' ' := fun hr =>
    isNameChar_ne (h ' ' (List.mem_cons_of_mem c (List.mem_of_head? hr))) (by decide) rfl
  have hi : c ∉ indicators := by
    have hall : indicators.all (fun d => !isNameChar d) = true := by decide
    exact fun hm => hc c (by simpa using List.all_eq_true.mp hall c hm) rfl
  rw [isPlain, hasPair_name h (.inl (by decide)), hasPair_name h (.inl (by decide))]
  simp [hi, hhead, hlast ':' (by decide), hlast ' ' (by decide), hc '?' (by decide),
    hc ':' (by decide)]

theorem word_plain {l : List Char} (h : isPlain l = true) :
    word l = some (.plain (String.ofList l)) := by
  have hq : l.head? ≠ some '"' := by
    cases l with
    | nil => simp
    | cons c r =>
      simp only [isPlain, Bool.and_eq_true] at h
      rintro hc
      rw [List.head?_cons, Option.some.injEq] at hc
      subst hc
      simp [indicators] at h
  rw [word, if_neg hq, if_pos h]

theorem scalar_plain {l : List Char} (h : isPlain l = true) :
    scalar l = some (.word (.plain (String.ofList l))) := by
  have hb : l.head? ≠ some '[' := by
    cases l with
    | nil => simp
    | cons c r =>
      simp only [isPlain, Bool.and_eq_true] at h
      rintro hc
      rw [List.head?_cons, Option.some.injEq] at hc
      subst hc
      simp [indicators] at h
  rw [scalar, if_neg hb, word_plain h]
  rfl

def isName (s : String) : Bool := s.toList ≠ [] && s.toList.all isNameChar

theorem isName_iff {s : String} :
    isName s = true ↔ s.toList ≠ [] ∧ ∀ c ∈ s.toList, isNameChar c = true := by
  simp only [isName, Bool.and_eq_true, decide_eq_true_eq, List.all_eq_true]

theorem scalar_name {s : String} (h : isName s = true) :
    scalar s.toList = some (.word (.plain s)) := by
  obtain ⟨hne, hs⟩ := isName_iff.mp h
  rw [scalar_plain (isPlain_name hne hs), String.ofList_toList]

theorem line_name {s : String} (h : isName s = true) : s.toList.all isLineChar = true :=
  List.all_eq_true.mpr fun c hc => isNameChar_line ((isName_iff.mp h).2 c hc)

theorem isDigit_name {c : Char} (h : isDigit c = true) : isNameChar c = true := by
  simp [isNameChar, h]

theorem digit_ne {c d : Char} (h : isDigit c = true) (hd : isDigit d = false) : c ≠ d := by
  rintro rfl
  simp [h] at hd

theorem spellsDay_undashed {lo : Nat} {l : List Char} (h : '-' ∉ l) : spellsDay lo l = false := by
  rw [spellsDay, List.splitOn_eq_singleton h]

theorem some1_of_mem {p : Char → Bool} {c : Char} {l : List Char} (hc : c ∈ l) (hp : p c = false) :
    some1 p l = false := by
  rw [some1, Bool.and_eq_false_iff, List.all_eq_false]
  exact .inr ⟨c, hc, by simp [hp]⟩

theorem spellsInt_dotted {l : List Char} (h : '.' ∈ l) (hs : unsigned l = l) :
    spellsInt l = false := by
  rw [spellsInt, hs, Bool.and_eq_false_iff]
  right
  split
  next r => exact some1_of_mem (by simpa using h) (by decide)
  next r => exact some1_of_mem (by simpa using h) (by decide)
  next r => exact some1_of_mem (by simpa using h) (by decide)
  next => exact some1_of_mem h (by decide)

theorem dropWhile_stop {p : Char → Bool} {a r : List Char} {c : Char} (ha : ∀ x ∈ a, p x = true)
    (hc : p c = false) : (a ++ c :: r).dropWhile p = c :: r := by
  rw [List.dropWhile_append_of_pos ha, List.dropWhile_cons_of_neg (by simp [hc])]

theorem takeWhile_stop {p : Char → Bool} {a r : List Char} {c : Char} (ha : ∀ x ∈ a, p x = true)
    (hc : p c = false) : (a ++ c :: r).takeWhile p = a := by
  rw [List.takeWhile_append_of_pos ha, List.takeWhile_cons_of_neg (by simp [hc]), List.append_nil]

theorem isTyped_dotted {a b c : List Char} (ha : ∀ x ∈ a, isDigit x = true) (hne : a ≠ [])
    (hb : ∀ x ∈ b, isDigit x = true) (hc : '-' ∉ c) :
    isTyped (String.ofList (a ++ '.' :: (b ++ '.' :: c))) = false := by
  have hdig : ∀ {l : List Char}, (∀ x ∈ l, isDigit x = true) → ∀ x ∈ l, isDigit_ x = true :=
    fun h x hx => by simp [isDigit_, h x hx]
  obtain ⟨x, a, rfl⟩ := List.exists_cons_of_ne_nil hne
  have hx : isDigit x = true := ha x (by simp)
  generalize hl : (x :: a) ++ '.' :: (b ++ '.' :: c) = l
  have hhead : l.head? = some x := by simp [← hl]
  have hword : ∀ ws : List (List Char), ws.all (fun w => !w.head?.any isDigit) = true → l ∉ ws := by
    intro ws hw hm
    have hl := List.all_eq_true.mp hw l hm
    simp [hhead, hx] at hl
  have hsign : unsigned l = l := by
    rw [← hl, List.cons_append, unsigned]
    simp [isSign, digit_ne hx (show isDigit '+' = false by decide),
      digit_ne hx (show isDigit '-' = false by decide)]
  have hint : spellsInt l = false := spellsInt_dotted (by simp [← hl]) hsign
  have hfloat : spellsFloat l = false := by
    have hr : l.dropWhile isDigit_ = '.' :: (b ++ '.' :: c) := by
      rw [← hl, dropWhile_stop (hdig ha) (by decide)]
    have ht : (b ++ '.' :: c).dropWhile isDigit_ = '.' :: c :=
      dropWhile_stop (hdig hb) (by decide)
    have hd : ∀ t, l ≠ '.' :: t := by
      rintro t rfl
      exact digit_ne hx (show isDigit '.' = false by decide) (by simpa using hhead.symm)
    simp only [spellsFloat, hsign, hr, ht]
    simp [isExponent, hd]
  have hdate : spellsDate l = false := by
    have hdash : ∀ {l : List Char}, (∀ x ∈ l, isDigit x = true) → '-' ∉ l := fun h hm =>
      digit_ne (h '-' hm) (show isDigit '-' = false by decide) rfl
    have hl' : '-' ∉ l := by
      rw [← hl]
      rintro hm
      rcases List.mem_append.mp hm with hm | hm
      · exact hdash ha hm
      · simp [hdash hb, hc] at hm
    have ht : l.takeWhile (fun c => isDigit c || c = '-') = x :: a := by
      rw [← hl, takeWhile_stop (fun y hy => by simp [ha y hy]) (by decide)]
    rw [spellsDate, spellsDay_undashed hl', ht, spellsDay_undashed (hdash ha)]
    rfl
  simp only [isTyped, String.toList_ofList, isTypedList, hint, hfloat, hdate, Bool.or_false,
    Bool.or_eq_false_iff, List.contains_eq_mem, decide_eq_false_iff_not, spellsNull, spellsBool]
  exact ⟨⟨hword _ (by decide), hword _ (by decide)⟩, hword _ (by decide)⟩

theorem isTyped_letters {a b : Char} (ha : 'A' ≤ a ∧ a ≤ 'Z') (hb : 'A' ≤ b ∧ b ≤ 'Z') :
    isTypedList [a, b] = false := by
  have hne : ∀ {c : Char}, 'A' ≤ c ∧ c ≤ 'Z' → ∀ d : Char, ¬ ('A' ≤ d ∧ d ≤ 'Z') → c ≠ d := by
    rintro c hc d hd rfl
    exact hd hc
  have hdig : ∀ {c : Char}, 'A' ≤ c ∧ c ≤ 'Z' → isDigit c = false := by
    intro c hc
    have h1 : 65 ≤ c.toNat := hc.1
    simp only [isDigit, Bool.and_eq_false_iff, decide_eq_false_iff_not]
    right
    intro h2
    have h2' : c.toNat ≤ 57 := h2
    omega
  have hsign : isSign a = false := by
    simp [isSign, hne ha '+' (by decide), hne ha '-' (by decide)]
  have hu : unsigned [a, b] = [a, b] := by simp [unsigned, hsign]
  have hint : spellsInt [a, b] = false := by simp [spellsInt, hdig ha, hsign]
  have hfloat : spellsFloat [a, b] = false := by
    simp [spellsFloat, hu, hdig ha, hne ha '.' (by decide)]
  have hdate : spellsDate [a, b] = false := by
    have hdash : '-' ∉ [a, b] := by
      simp [(hne ha '-' (by decide)).symm, (hne hb '-' (by decide)).symm]
    have ht : [a, b].takeWhile (fun c => isDigit c || c = '-') = [] := by
      simp [hdig ha, hne ha '-' (by decide)]
    rw [spellsDate, spellsDay_undashed hdash, ht, spellsDay_undashed (by simp)]
    rfl
  simp [isTypedList, spellsNull, spellsBool, hint, hfloat, hdate, hne ha '<' (by decide)]

theorem toList_address (a : Inet.IPv4Address) : a.str.toList =
    (toString (a.octet 3)).toList ++ '.' :: ((toString (a.octet 2)).toList ++ '.' ::
      ((toString (a.octet 1)).toList ++ '.' :: (toString (a.octet 0)).toList)) := by
  simp [Inet.IPv4Address.str, Text.join, List.intercalate, List.intersperse]

theorem number_digits (n : Nat) : ∀ c ∈ (toString n).toList, isDigit c = true := by
  intro c hc
  have hd := Nat.isDigit_of_mem_toDigits (by decide) (by decide) (Nat.toList_repr ▸ hc)
  simp only [Char.isDigit, Bool.and_eq_true, decide_eq_true_eq] at hd
  simp only [isDigit, Bool.and_eq_true, decide_eq_true_eq]
  exact hd

theorem number_ne (n : Nat) : (toString n).toList ≠ [] := by
  intro h
  exact Nat.toDigits_ne_nil (Nat.toList_repr ▸ h)

theorem number_undashed (n : Nat) : '-' ∉ (toString n).toList :=
  fun h => digit_ne (number_digits n '-' h) (show isDigit '-' = false by decide) rfl

theorem undashed_append {a b : List Char} {c : Char} (ha : '-' ∉ a) (hc : '-' ≠ c) (hb : '-' ∉ b) :
    '-' ∉ a ++ c :: b := by
  rw [List.mem_append, List.mem_cons]
  rintro (h | h | h)
  · exact ha h
  · exact hc h
  · exact hb h

theorem isTyped_address (a : Inet.IPv4Address) : isTyped a.str = false := by
  have h := isTyped_dotted (number_digits (a.octet 3)) (number_ne _) (number_digits (a.octet 2))
    (undashed_append (c := '.') (number_undashed (a.octet 1)) (by decide)
      (number_undashed (a.octet 0)))
  rwa [← toList_address, String.ofList_toList] at h

theorem isTyped_network (n : Inet.IPv4Network) : isTyped n.str = false := by
  have h := isTyped_dotted (number_digits (n.address.octet 3)) (number_ne _)
    (number_digits (n.address.octet 2))
    (undashed_append (c := '.') (number_undashed (n.address.octet 1)) (by decide)
      (undashed_append (c := '/') (number_undashed (n.address.octet 0)) (by decide)
        (number_undashed n.prefixlen)))
  rwa [← String.ofList_toList (s := n.str), show n.str.toList =
    (toString (n.address.octet 3)).toList ++ '.' :: ((toString (n.address.octet 2)).toList ++ '.' ::
      ((toString (n.address.octet 1)).toList ++ '.' :: ((toString (n.address.octet 0)).toList ++
        '/' :: (toString n.prefixlen).toList))) by
    simp [Inet.IPv4Network.str, toList_address]]

theorem isName_address (a : Inet.IPv4Address) : isName a.str = true := by
  refine isName_iff.mpr ⟨by simp [toList_address], fun c hc => ?_⟩
  rcases Inet.mem_str hc with h | rfl
  · exact isDigit_name h
  · decide

theorem isName_number (n : Nat) : isName (toString n) = true :=
  isName_iff.mpr ⟨number_ne n, fun c hc => isDigit_name (number_digits n c hc)⟩

theorem isName_network (n : Inet.IPv4Network) : isName n.str = true := by
  refine isName_iff.mpr ⟨by simp [Inet.IPv4Network.str, toList_address], fun c hc => ?_⟩
  simp only [Inet.IPv4Network.str, String.toList_append, List.mem_append] at hc
  rcases hc with (hc | hc) | hc
  · exact (isName_iff.mp (isName_address n.address)).2 c hc
  · obtain rfl : c = '/' := by simpa using hc
    decide
  · exact isDigit_name (number_digits n.prefixlen c hc)

theorem intercalate_spaced (l : List Char) (ls : List (List Char)) :
    [',', ' '].intercalate (l :: ls) = [','].intercalate (l :: ls.map (' ' :: ·)) := by
  induction ls generalizing l with
  | nil => rfl
  | cons m ls ih =>
    have hm := ih m
    simp only [List.intercalate, List.intersperse, List.map_cons, List.flatten_cons] at hm ⊢
    cases ls with
    | nil => simp
    | cons n ls => simpa using hm

theorem flowWord_name {s : String} (h : isName s = true) (hd : s.toList.head? ≠ some '-') :
    flowWord s.toList = some (.plain s) ∧ flowWord (' ' :: s.toList) = some (.plain s) := by
  obtain ⟨hne, hs⟩ := isName_iff.mp h
  have hc : ∀ c, isNameChar c = false → s.toList.head? ≠ some c := fun c hc hh =>
    isNameChar_ne (hs c (List.mem_of_head? hh)) hc rfl
  have hdrop : s.toList.dropWhile (· = ' ') = s.toList := by
    obtain ⟨c, r, hl⟩ := List.exists_cons_of_ne_nil hne
    rw [hl, List.dropWhile_cons_of_neg]
    have := isNameChar_ne (hs c (by simp [hl])) (show isNameChar ' ' = false by decide)
    simpa using this
  have hall : s.toList.all (fun c => c ∉ ['[', ']', '\x7b', '\x7d']) = true := by
    rw [List.all_eq_true]
    intro c hm
    have hb : ['[', ']', '\x7b', '\x7d'].all (fun d => !isNameChar d) = true := by decide
    have hn : c ∉ ['[', ']', '\x7b', '\x7d'] := fun hm' =>
      isNameChar_ne (hs c hm) (by simpa using List.all_eq_true.mp hb c hm') rfl
    simpa using hn
  have hw : flowWord s.toList = some (.plain s) := by
    have hh : s.toList.head? ∉ [some '-', some '?', some ':'] := by
      simp only [List.mem_cons, List.not_mem_nil, or_false, not_or]
      exact ⟨hd, hc '?' (by decide), hc ':' (by decide)⟩
    simp only [flowWord, hdrop]
    rw [if_pos ⟨hall, hh⟩, word_plain (isPlain_name hne hs), String.ofList_toList]
  refine ⟨hw, ?_⟩
  rw [← hw, flowWord, flowWord, List.dropWhile_cons_of_pos (by simp)]

def FlowNames (items : List String) : Prop :=
  ∀ s ∈ items, isName s = true ∧ s.toList.head? ≠ some '-'

theorem FlowNames.uncomma {items : List String} (h : FlowNames items) :
    ∀ s ∈ items, ',' ∉ s.toList := fun s hs hc =>
  isNameChar_ne ((isName_iff.mp (h s hs).1).2 ',' hc) (by decide) rfl

theorem mapM_flowWord {items : List String} (h : FlowNames items) :
    ((items.map String.toList).map (' ' :: ·)).mapM flowWord = some (items.map .plain) := by
  induction items with
  | nil => rfl
  | cons s items ih =>
    have hs := h s List.mem_cons_self
    rw [List.map_cons, List.map_cons, List.mapM_cons, (flowWord_name hs.1 hs.2).2,
      ih fun t ht => h t (List.mem_cons_of_mem s ht)]
    rfl

theorem flowWords_names {items : List String} (h : FlowNames items) :
    flowWords (Text.commaJoin items).toList = some (items.map .plain) := by
  cases items with
  | nil => rfl
  | cons s items =>
    have hs := h s List.mem_cons_self
    have hsplit : (Text.commaJoin (s :: items)).toList.splitOn ',' =
        s.toList :: (items.map String.toList).map (' ' :: ·) := by
      rw [Text.commaJoin, String.toList_ofList, List.map_cons, intercalate_spaced,
        List.splitOn_intercalate]
      · intro l hl
        rcases List.mem_cons.mp hl with rfl | hl
        · exact h.uncomma s List.mem_cons_self
        · obtain ⟨m, hm, rfl⟩ := List.mem_map.mp hl
          obtain ⟨t, ht, rfl⟩ := List.mem_map.mp hm
          simpa using h.uncomma t (List.mem_cons_of_mem s ht)
      · exact List.cons_ne_nil _ _
    have hne : (Text.commaJoin (s :: items)).toList ≠ [] := by
      intro he
      rw [he, List.splitOn_nil, List.cons.injEq] at hsplit
      exact (isName_iff.mp hs.1).1 hsplit.1.symm
    rw [flowWords, if_neg hne, hsplit, List.mapM_cons, (flowWord_name hs.1 hs.2).1,
      mapM_flowWord fun t ht => h t (List.mem_cons_of_mem s ht)]
    rfl

theorem scalar_flow {items : List String} (h : FlowNames items) :
    scalar ("[" ++ Text.commaJoin items ++ "]").toList = some (.flow (items.map .plain)) := by
  have hl : ("[" ++ Text.commaJoin items ++ "]").toList =
      '[' :: ((Text.commaJoin items).toList ++ [']']) := by
    simp
  have hlast : ('[' :: ((Text.commaJoin items).toList ++ [']'])).getLast? = some ']' := by
    rw [List.getLast?_cons]
    simp
  have hbody : ('[' :: ((Text.commaJoin items).toList ++ [']'])).tail.dropLast =
      (Text.commaJoin items).toList := by
    simp
  rw [hl, scalar, if_pos (by simp), if_pos ⟨by simp, hlast⟩, hbody, flowWords_names h]
  rfl

theorem mem_commaJoin {items : List String} {c : Char} (h : c ∈ (Text.commaJoin items).toList) :
    c = ',' ∨ c = ' ' ∨ ∃ s ∈ items, c ∈ s.toList := by
  rw [Text.commaJoin, String.toList_ofList] at h
  induction items with
  | nil => simp at h
  | cons s items ih =>
    cases items with
    | nil =>
      simp only [List.map_cons, List.map_nil, List.intercalate, List.intersperse, List.flatten_cons,
        List.flatten_nil, List.append_nil] at h
      exact .inr (.inr ⟨s, List.mem_cons_self, h⟩)
    | cons t items =>
      simp only [List.map_cons, List.intercalate, List.intersperse, List.flatten_cons,
        List.mem_append, List.mem_cons, List.not_mem_nil, or_false] at h ih
      rcases h with h | (rfl | rfl) | h
      · exact .inr (.inr ⟨s, List.mem_cons_self, h⟩)
      · exact .inl rfl
      · exact .inr (.inl rfl)
      · rcases ih h with rfl | rfl | ⟨u, hu, hc⟩
        · exact .inl rfl
        · exact .inr (.inl rfl)
        · exact .inr (.inr ⟨u, List.mem_cons_of_mem s (List.mem_cons.mpr hu), hc⟩)

theorem line_flow {items : List String} (h : FlowNames items) :
    ("[" ++ Text.commaJoin items ++ "]").toList.all isLineChar = true := by
  have hj : ∀ c ∈ (Text.commaJoin items).toList, isLineChar c = true := by
    intro c hc
    rcases mem_commaJoin hc with rfl | rfl | ⟨s, hs, hcs⟩
    · decide
    · decide
    · exact isNameChar_line ((isName_iff.mp (h s hs).1).2 c hcs)
  simp only [String.toList_append, List.all_append, Bool.and_eq_true]
  exact ⟨⟨by decide, List.all_eq_true.mpr hj⟩, by decide⟩

theorem flowNames_numbers (l : List Nat) : FlowNames (l.map fun n => toString n) := by
  intro s hs
  obtain ⟨n, -, rfl⟩ := List.mem_map.mp hs
  refine ⟨isName_number n, fun hh => ?_⟩
  exact digit_ne (number_digits n '-' (List.mem_of_head? hh)) (show isDigit '-' = false by decide) rfl

end Yaml

end VibeDPN
