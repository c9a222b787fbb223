import VibeDPN.Lib.Text

namespace VibeDPN

open Text

def isLower (c : Char) : Bool := 'a' ≤ c && c ≤ 'z'

def isNumber (c : Char) : Bool := '0' ≤ c && c ≤ '9'

def isLabelChar (c : Char) : Bool := isLower c || isNumber c || c = '-'

def isLabel (l : List Char) : Bool :=
  1 ≤ l.length && l.length ≤ 63 && l.all isLabelChar && l.head? ≠ some '-' && l.getLast? ≠ some '-'

def isDomain (s : String) : Bool :=
  s.toList.length ≤ 253 && 2 ≤ (s.toList.splitOn '.').length && (s.toList.splitOn '.').all isLabel

abbrev DomainName := {s : String // isDomain s = true}

def isHexPair (l : List Char) : Bool :=
  l.length = 2 && l.all (fun c => isNumber c || ('a' ≤ c && c ≤ 'f'))

def isMac (s : String) : Bool :=
  (s.toList.splitOn ':').length = 6 && (s.toList.splitOn ':').all isHexPair

abbrev Mac := {s : String // isMac s = true}

instance decidableMemMacs (m : Mac) (l : List Mac) : Decidable (m ∈ l) := inferInstance

def isCountry (s : String) : Bool :=
  s.toList.length = 2 && s.toList.all (fun c => 'A' ≤ c && c ≤ 'Z')

abbrev Country := {s : String // isCountry s = true}

def isWgName (s : String) : Bool :=
  s.toList.length ≤ 24 && s.toList.all isLabelChar && s.toList ≠ [] && s.toList.head? ≠ some '-'

abbrev WgName := {s : String // isWgName s = true}

def isUrlRest (l : List Char) : Bool := l ≠ [] && l.head? ≠ some '/' && l.all (fun c => !isSpace c)

def isListUrl (s : String) : Bool :=
  (startsWith s "https://" && isUrlRest (s.toList.drop 8)) ||
    (startsWith s "http://" && isUrlRest (s.toList.drop 7))

abbrev ListUrl := {s : String // isListUrl s = true}

def isDeviceName (s : String) : Bool := 1 ≤ s.toList.length && s.toList.length ≤ 64

abbrev DeviceName := {s : String // isDeviceName s = true}

def check (p : String → Bool) (s : String) : Option {s : String // p s = true} :=
  if h : p s = true then some ⟨s, h⟩ else none

theorem check_val {p : String → Bool} (x : {s : String // p s = true}) : check p x.val = some x := by
  rw [check, dif_pos x.property]

theorem check_eq_some {p : String → Bool} {s : String} {x : {s : String // p s = true}} :
    check p s = some x ↔ s = x.val := by
  constructor
  · intro h
    rw [check] at h
    split at h
    · exact congrArg Subtype.val (Option.some.inj h)
    · exact absurd h (by simp)
  · rintro rfl
    exact check_val x

def normalizeDomain (value : String) : Option DomainName :=
  check isDomain (stripBy (· = '.') (lower value))

def normalizeMac (value : String) : Option Mac :=
  check isMac (replaceChar '-' ':' (lower value))

def normalizeCountry (value : String) : Option Country :=
  check isCountry (upper (strip value))

theorem isDomain_chars {s : String} (h : isDomain s = true) :
    ∀ c ∈ s.toList, isLabelChar c = true ∨ c = '.' := by
  intro c hc
  simp only [isDomain, Bool.and_eq_true, List.all_eq_true] at h
  rcases mem_splitOn_of_mem (x := '.') hc with rfl | ⟨p, hp, hcp⟩
  · exact .inr rfl
  · have hl := h.2 p hp
    simp only [isLabel, Bool.and_eq_true, List.all_eq_true] at hl
    exact .inl (hl.1.1.2 c hcp)

theorem isLower_iff (c : Char) : isLower c = true ↔ 97 ≤ c.toNat ∧ c.toNat ≤ 122 := by
  simp only [isLower, Bool.and_eq_true, decide_eq_true_eq]
  exact Iff.rfl

theorem isNumber_iff (c : Char) : isNumber c = true ↔ 48 ≤ c.toNat ∧ c.toNat ≤ 57 := by
  simp only [isNumber, Bool.and_eq_true, decide_eq_true_eq]
  exact Iff.rfl

theorem toNat_label {c : Char} (h : isLabelChar c = true ∨ c = '.') :
    c.toNat < 65 ∨ 97 ≤ c.toNat ∧ c.toNat ≤ 122 := by
  simp only [isLabelChar, Bool.or_eq_true, isLower_iff, isNumber_iff, decide_eq_true_eq] at h
  rcases h with ((h | h) | rfl) | rfl
  · omega
  · omega
  · decide
  · decide

theorem lowerChar_label {c : Char} (h : isLabelChar c = true ∨ c = '.') : lowerChar c = c := by
  have hn := toNat_label h
  refine lowerChar_of_not_upper ?_ (by omega)
  rintro rfl
  revert hn
  decide

theorem lower_domain (d : DomainName) : lower d.val = d.val :=
  lower_eq_self fun c hc => lowerChar_label (isDomain_chars d.property c hc)

theorem nil_not_label {s : String} (h : isDomain s = true) : [] ∉ s.toList.splitOn '.' := by
  intro hm
  simp only [isDomain, Bool.and_eq_true, List.all_eq_true] at h
  simpa [isLabel] using h.2 [] hm

theorem domain_head {s : String} (h : isDomain s = true) (hne : s.toList ≠ []) :
    s.toList.head hne ≠ '.' := by
  intro hd
  refine nil_not_label h ?_
  obtain ⟨a, l, hl⟩ := List.exists_cons_of_ne_nil hne
  have ha : a = '.' := by simpa [hl] using hd
  rw [hl, ha, List.splitOn_cons_eq_if_modifyHead]
  simp

theorem domain_last {s : String} (h : isDomain s = true) (hne : s.toList ≠ []) :
    s.toList.getLast hne ≠ '.' := by
  intro hd
  refine nil_not_label h ?_
  have hs := List.dropLast_append_getLast hne
  rw [hd] at hs
  rw [← hs, List.splitOn_append_cons_self]
  simp

theorem normalizeDomain_val (d : DomainName) : normalizeDomain d.val = some d := by
  have hs : stripBy (· = '.') d.val = d.val := by
    rw [← String.toList_inj, toList_stripBy]
    exact stripList_eq_self (fun h => by simpa using domain_head d.property h)
      (fun h => by simpa using domain_last d.property h)
  rw [normalizeDomain, lower_domain, hs, check_val]

end VibeDPN
