import Mathlib

namespace VibeDPN.Text

-- of the characters outside ASCII only the Kelvin sign lowers to an ASCII one
def lowerChar (c : Char) : Char :=
  if c = '\u212a' then 'k' else c.toLower

def lower (s : String) : String := String.ofList (s.toList.map lowerChar)

-- the characters whose upper case is made of ASCII letters only
def upperChar (c : Char) : List Char :=
  if c = '\u00df' then ['S', 'S']
  else if c = '\u0131' then ['I']
  else if c = '\u017f' then ['S']
  else if c = '\ufb00' then ['F', 'F']
  else if c = '\ufb01' then ['F', 'I']
  else if c = '\ufb02' then ['F', 'L']
  else if c = '\ufb05' ∨ c = '\ufb06' then ['S', 'T']
  else [c.toUpper]

def upper (s : String) : String := String.ofList (s.toList.flatMap upperChar)

def startsWith (s p : String) : Bool := p.toList.isPrefixOf s.toList

def removePrefix (s p : String) : String :=
  if startsWith s p then String.ofList (s.toList.drop p.toList.length) else s

def stripList (p : Char → Bool) (l : List Char) : List Char := (l.dropWhile p).rdropWhile p

def stripBy (p : Char → Bool) (s : String) : String := String.ofList (stripList p s.toList)

def rstripBy (p : Char → Bool) (s : String) : String := String.ofList (s.toList.rdropWhile p)

def split (c : Char) (s : String) : List String := (s.toList.splitOn c).map String.ofList

def join (c : Char) (l : List String) : String :=
  String.ofList ([c].intercalate (l.map String.toList))

def commaJoin (l : List String) : String :=
  String.ofList ([',', ' '].intercalate (l.map String.toList))

def lines (l : List String) : String := String.join (l.map (· ++ "\n"))

def replaceChar (a b : Char) (s : String) : String :=
  String.ofList (s.toList.map (fun c => if c = a then b else c))

def reprChar (quote c : Char) : List Char :=
  if c = quote ∨ c = '\\' then ['\\', c]
  else if c = '\n' then ['\\', 'n']
  else if c = '\r' then ['\\', 'r']
  else if c = '\t' then ['\\', 't']
  else [c]

def quoted (s : String) : String :=
  let quote := if '\'' ∈ s.toList ∧ '"' ∉ s.toList then '"' else '\''
  String.ofList (quote :: s.toList.flatMap (reprChar quote) ++ [quote])

def isSpace (c : Char) : Bool :=
  (9 ≤ c.toNat && c.toNat ≤ 13) || (28 ≤ c.toNat && c.toNat ≤ 32) || c.toNat = 133 ||
    c.toNat = 160 || c.toNat = 5760 || (8192 ≤ c.toNat && c.toNat ≤ 8202) || c.toNat = 8232 ||
    c.toNat = 8233 || c.toNat = 8239 || c.toNat = 8287 || c.toNat = 12288

def isBlank (c : Char) : Bool := isSpace c && !(28 ≤ c.toNat && c.toNat ≤ 31)

def strip (s : String) : String := stripBy isSpace s

def trim (s : String) : String := stripBy isBlank s

@[simp] theorem toList_lower (s : String) : (lower s).toList = s.toList.map lowerChar := by
  simp [lower]

@[simp] theorem toList_stripBy (p : Char → Bool) (s : String) :
    (stripBy p s).toList = stripList p s.toList := by
  simp [stripBy]

@[simp] theorem toList_rstripBy (p : Char → Bool) (s : String) :
    (rstripBy p s).toList = s.toList.rdropWhile p := by
  simp [rstripBy]

theorem lowerChar_of_not_upper {c : Char} (hk : c ≠ '\u212a') (h : c.toNat < 65 ∨ 90 < c.toNat) : lowerChar c = c := by
  rw [lowerChar, if_neg hk, Char.toLower]
  split
  · rename_i hu
    have h1 : 65 ≤ c.toNat := hu.1
    have h2 : c.toNat ≤ 90 := hu.2
    omega
  · rfl

theorem lower_eq_self {s : String} (h : ∀ c ∈ s.toList, lowerChar c = c) : lower s = s := by
  rw [← String.toList_inj, toList_lower]
  exact (List.map_congr_left h).trans (List.map_id _)

theorem stripList_eq_self {p : Char → Bool} {l : List Char}
    (hh : ∀ h : l ≠ [], p (l.head h) = false) (ht : ∀ h : l ≠ [], p (l.getLast h) = false) :
    stripList p l = l := by
  have hd : l.dropWhile p = l := by
    cases l with
    | nil => rfl
    | cons c l => simpa using hh (by simp)
  rw [stripList, hd, List.rdropWhile_eq_self_iff]
  exact fun h => by simp [ht h]

theorem join_split (c : Char) (s : String) : join c (split c s) = s := by
  have h : (split c s).map String.toList = s.toList.splitOn c := by
    simp [split, Function.comp_def]
  rw [join, h, List.intercalate_splitOn, String.ofList_toList]

theorem split_join {c : Char} {l : List String} (hne : l ≠ [])
    (h : ∀ s ∈ l, c ∉ s.toList) : split c (join c l) = l := by
  have hs : ((join c l).toList).splitOn c = l.map String.toList := by
    rw [join, String.toList_ofList, List.splitOn_intercalate]
    · simpa using h
    · simpa using hne
  rw [split, hs]
  simp [Function.comp_def]

theorem mem_splitOn_of_mem {x c : Char} {l : List Char} (h : c ∈ l) :
    c = x ∨ ∃ p ∈ l.splitOn x, c ∈ p := by
  induction l with
  | nil => simp at h
  | cons a l ih =>
    obtain ⟨p, ps, hp⟩ := List.exists_cons_of_ne_nil (List.splitOn_ne_nil x l)
    rw [List.splitOn_cons_eq_if_modifyHead]
    by_cases ha : a = x
    · rcases List.mem_cons.mp h with rfl | h
      · exact .inl ha
      · simpa [ha] using ih h
    · have hb : (a == x) = false := by simpa using ha
      rw [hb, hp]
      rcases List.mem_cons.mp h with rfl | h
      · exact .inr ⟨c :: p, by simp, by simp⟩
      · rcases ih h with rfl | ⟨q, hq, hc⟩
        · exact .inl rfl
        · rw [hp] at hq
          rcases List.mem_cons.mp hq with rfl | hq
          · exact .inr ⟨a :: q, by simp, by simp [hc]⟩
          · exact .inr ⟨q, by simp [hq], hc⟩

theorem startsWith_iff {s p : String} : startsWith s p = true ↔ ∃ t, s = p ++ t := by
  rw [startsWith, List.isPrefixOf_iff_prefix]
  constructor
  · rintro ⟨t, ht⟩
    exact ⟨String.ofList t, by rw [← String.toList_inj]; simp [ht]⟩
  · rintro ⟨t, rfl⟩
    exact ⟨t.toList, by simp⟩

@[simp] theorem startsWith_append (p t : String) : startsWith (p ++ t) p = true :=
  startsWith_iff.mpr ⟨t, rfl⟩

@[simp] theorem removePrefix_append (p t : String) : removePrefix (p ++ t) p = t := by
  rw [removePrefix, startsWith_append, if_pos rfl, String.toList_append]
  simp

end VibeDPN.Text
