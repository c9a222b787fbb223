import VibeDPN.Lib.Inet

namespace VibeDPN.Inet

open Text

def isHexDigit (c : Char) : Bool := isDigit c || ('a' ≤ c && c ≤ 'f') || ('A' ≤ c && c ≤ 'F')

def isHextet (l : List Char) : Bool := l ≠ [] && l.all isHexDigit && l.length ≤ 4

def hex (n : Nat) : List Char := Nat.toDigits 16 n

-- an address in dots at the end stands for two hextets
def dottedTail (parts : List (List Char)) : Option (List (List Char)) :=
  let last := parts.getLastD []
  if '.' ∈ last then
    (parseAddress (String.ofList last)).map fun a =>
      parts.dropLast ++ [hex (a.toNat / 65536 % 65536), hex (a.toNat % 65536)]
  else some parts

def sideHextets (l : List (List Char)) : Option Nat :=
  if l = [[]] then some 0 else if l.all isHextet then some l.length else none

def isHextets (parts : List (List Char)) : Bool :=
  match (parts.tail.dropLast).count [] with
  | 0 => parts.length = 8 && parts.all isHextet
  | 1 =>
      let skip := parts.tail.idxOf [] + 1
      match sideHextets (parts.take skip), sideHextets (parts.drop (skip + 1)) with
      | some high, some low => high + low ≤ 7
      | _, _ => false
  | _ => false

def isAddress6 (l : List Char) : Bool :=
  let parts := l.splitOn ':'
  3 ≤ parts.length && (dottedTail parts).any fun parts => parts.length ≤ 9 && isHextets parts

def isScoped6 (s : String) : Bool :=
  match s.toList.splitOn '%' with
  | [a] => '/' ∉ a && isAddress6 a
  | [a, scope] => '/' ∉ a ++ scope && scope ≠ [] && isAddress6 a
  | _ => false

-- ip_address of the standard library takes the value
def isIpAddress (s : String) : Bool := (parseAddress s).isSome || isScoped6 s

theorem splitOn_cons_ne {x c : Char} (hc : c ≠ x) (l : List Char) :
    ∃ p ps, (c :: l).splitOn x = (c :: p) :: ps := by
  obtain ⟨p, ps, hp⟩ := List.exists_cons_of_ne_nil (List.splitOn_ne_nil x l)
  refine ⟨p, ps, ?_⟩
  have hb : (c == x) = false := by simpa using hc
  rw [List.splitOn_cons_eq_if_modifyHead, hb, hp]
  rfl

theorem hextet_head {c : Char} {l : List Char} (h : isHextet (c :: l) = true) :
    isHexDigit c = true := by
  simp only [isHextet, Bool.and_eq_true, List.all_cons] at h
  exact h.1.2.1

theorem octet_head {s : String} (h : (parseAddress s).isSome) :
    ∃ c l, s.toList = c :: l ∧ isHexDigit c = true := by
  have hno : ∀ ps : List (List Char), s.toList.splitOn '.' = [] :: ps → False := by
    intro ps hs
    have hn : parseOctet (String.ofList []) = none := by decide
    simp only [parseAddress, split, hs, List.map_cons, hn] at h
    exact absurd h (by simp)
  cases hl : s.toList with
  | nil => exact (hno [] (by rw [hl]; rfl)).elim
  | cons c l =>
    refine ⟨c, l, rfl, ?_⟩
    by_cases hc : c = '.'
    · refine (hno (l.splitOn '.') ?_).elim
      rw [hl, hc, List.splitOn_cons_eq_if_modifyHead]
      simp
    · obtain ⟨p, ps, hp⟩ := splitOn_cons_ne hc l
      by_contra hd
      have hn : parseOctet (String.ofList (c :: p)) = none := by
        have hcd : isDigit c = false := by
          simp only [isHexDigit, Bool.or_eq_true, not_or, Bool.not_eq_true] at hd
          exact hd.1.1
        simp [parseOctet, hcd]
      simp only [parseAddress, split, hl, hp, List.map_cons, hn] at h
      exact absurd h (by simp)

theorem hextets_head {c : Char} {p : List Char} {ps : List (List Char)}
    (h : isHextets ((c :: p) :: ps) = true) : isHexDigit c = true := by
  rw [isHextets] at h
  split at h
  · simp only [Bool.and_eq_true, List.all_cons] at h
    exact hextet_head h.2.1
  · simp only [List.take_succ_cons] at h
    split at h
    next high low hh hl =>
      rw [sideHextets, if_neg (by simp)] at hh
      split at hh
      next ha =>
        rw [List.all_cons, Bool.and_eq_true] at ha
        exact hextet_head ha.1
      · exact absurd hh (by simp)
    · exact absurd h (by simp)
  · exact absurd h (by simp)

theorem address6_head {c : Char} {l : List Char} (hc : c ≠ ':') (h : isAddress6 (c :: l) = true) :
    isHexDigit c = true := by
  obtain ⟨p, ps, hp⟩ := splitOn_cons_ne hc l
  simp only [isAddress6, hp, Bool.and_eq_true, decide_eq_true_eq, List.length_cons] at h
  obtain ⟨hlen, h⟩ := h
  obtain ⟨q, qs, rfl⟩ := List.exists_cons_of_length_pos (show 0 < ps.length by omega)
  obtain ⟨parts, hparts, hok⟩ := (Option.any_eq_true _ _).mp h
  have hhead : ∃ rest, parts = (c :: p) :: rest := by
    rw [dottedTail] at hparts
    split at hparts
    · obtain ⟨a, _, rfl⟩ := Option.map_eq_some_iff.mp hparts
      exact ⟨_, rfl⟩
    · exact ⟨_, (Option.some.inj hparts).symm⟩
  obtain ⟨rest, rfl⟩ := hhead
  rw [Bool.and_eq_true] at hok
  exact hextets_head hok.2

theorem ipAddress_head {s : String} (h : isIpAddress s = true) :
    ∃ c l, s.toList = c :: l ∧ (isHexDigit c = true ∨ c = ':') := by
  rw [isIpAddress, Bool.or_eq_true] at h
  rcases h with h | h
  · obtain ⟨c, l, hs, hc⟩ := octet_head h
    exact ⟨c, l, hs, .inl hc⟩
  · have hempty : isAddress6 [] = false := by decide
    rw [isScoped6] at h
    cases hl : s.toList with
    | nil =>
      rw [hl] at h
      exact absurd h (by decide)
    | cons c l =>
      refine ⟨c, l, rfl, ?_⟩
      rw [hl] at h
      by_cases hp : c = '%'
      · rw [hp, List.splitOn_cons_eq_if_modifyHead] at h
        split at h <;> simp_all
      · obtain ⟨p, ps, hps⟩ := splitOn_cons_ne hp l
        rw [hps] at h
        by_cases hc : c = ':'
        · exact .inr hc
        · left
          split at h
          next a ha =>
            obtain rfl := (List.cons.inj ha).1
            exact address6_head hc (by simpa using (Bool.and_eq_true _ _ ▸ h).2)
          next a scope ha =>
            obtain rfl := (List.cons.inj ha).1
            exact address6_head hc (by simpa using (Bool.and_eq_true _ _ ▸ h).2)
          · exact absurd h (by simp)

end VibeDPN.Inet
