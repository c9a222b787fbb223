import VibeDPN.Lib.Scalars

namespace VibeDPN

namespace Yaml

open Inet (isDigit)

-- the escapes that make a JSON text safe inside HTML
def htmlChar (c : Char) : List Char :=
  if c ∈ ['<', '>', '&', '\''] then Json.escapeUnit c.toNat else [c]

def tojsonBody (l : List Char) : List Char := (l.flatMap Json.escapeChar).flatMap htmlChar

def tojson (s : String) : String := String.ofList ('"' :: tojsonBody s.toList ++ ['"'])

def codeUnits (c : Char) : List Nat :=
  if c.toNat < 0x10000 then [c.toNat]
  else [0xd800 + (c.toNat - 0x10000) / 1024, 0xdc00 + (c.toNat - 0x10000) % 1024]

def isHexChar (c : Char) : Bool := isDigit c || ('a' ≤ c && c ≤ 'f')

theorem isHexChar_hexDigit (n : Nat) : isHexChar (Json.hexDigit (n % 16)) = true := by
  have hall : (List.range 16).all (fun n => isHexChar (Json.hexDigit n)) = true := by decide
  exact List.all_eq_true.mp hall _ (List.mem_range.mpr (Nat.mod_lt n (by decide)))

theorem isQuotedBody_unit (n : Nat) (s : List Char) :
    isQuotedBody (Json.escapeUnit n ++ s) = isQuotedBody s := by
  have hx := fun k => isHexChar_hexDigit k
  simp only [isHexChar] at hx
  simp only [Json.escapeUnit, List.cons_append, List.nil_append, isQuotedBody, List.all_cons,
    List.all_nil, hx, Bool.and_true, Bool.true_and]

theorem readUnits_unit {n : Nat} (h : n < 0x10000) (s : List Char) :
    readUnits (Json.escapeUnit n ++ s) = n :: readUnits s := by
  have hr := Json.readUnit_escape h []
  simp only [Json.escapeUnit, List.drop_succ_cons, List.drop_zero, List.append_nil] at hr
  simp only [Json.escapeUnit, List.cons_append, List.nil_append, readUnits, hr]

theorem htmlChar_unit (n : Nat) : (Json.escapeUnit n).flatMap htmlChar = Json.escapeUnit n := by
  have hd : ∀ k, htmlChar (Json.hexDigit (k % 16)) = [Json.hexDigit (k % 16)] := by
    intro k
    have hall : (List.range 16).all (fun n => htmlChar (Json.hexDigit n) = [Json.hexDigit n]) = true := by
      decide
    have hk := List.all_eq_true.mp hall _ (List.mem_range.mpr (Nat.mod_lt k (by decide)))
    simpa using hk
  simp only [Json.escapeUnit, List.flatMap_cons, List.flatMap_nil, hd]
  rfl

theorem tojsonChar_cases (c : Char) :
    (∃ d, (Json.escapeChar c).flatMap htmlChar = ['\\', d] ∧ Json.unescape d = c ∧
      d ∈ ['"', '\\', 'n', 'r', 't', 'f', 'b']) ∨
    ((Json.escapeChar c).flatMap htmlChar = [c] ∧ c ≠ '"' ∧ c ≠ '\\' ∧ 32 ≤ c.toNat ∧
      c.toNat ≤ 126) ∨
    (Json.escapeChar c).flatMap htmlChar = (codeUnits c).flatMap Json.escapeUnit := by
  rw [Json.escapeChar]
  split
  next h => exact .inl ⟨'"', by decide, by rw [h]; rfl, by decide⟩
  split
  next h => exact .inl ⟨'\\', by decide, by rw [h]; rfl, by decide⟩
  split
  next h => exact .inl ⟨'n', by decide, by rw [h]; rfl, by decide⟩
  split
  next h => exact .inl ⟨'r', by decide, by rw [h]; rfl, by decide⟩
  split
  next h => exact .inl ⟨'t', by decide, by rw [h]; rfl, by decide⟩
  split
  next h => exact .inl ⟨'f', by decide, by rw [h]; rfl, by decide⟩
  split
  next h => exact .inl ⟨'b', by decide, by rw [h]; rfl, by decide⟩
  split
  next hq hb _ _ _ _ _ hr =>
    rw [List.flatMap_singleton, htmlChar]
    split
    next =>
      refine .inr (.inr ?_)
      rw [codeUnits, if_pos (by omega), List.flatMap_singleton]
    next => exact .inr (.inl ⟨rfl, hq, hb, hr⟩)
  split
  next h =>
    refine .inr (.inr ?_)
    rw [htmlChar_unit, codeUnits, if_pos h, List.flatMap_singleton]
  next h =>
    refine .inr (.inr ?_)
    rw [List.flatMap_append, htmlChar_unit, htmlChar_unit, codeUnits, if_neg h]
    simp

theorem codeUnits_lt {c : Char} {n : Nat} (h : n ∈ codeUnits c) : n < 0x10000 := by
  have hc := Json.toNat_scalar c
  rw [codeUnits] at h
  split at h
  next hlt =>
    obtain rfl := List.mem_singleton.mp h
    exact hlt
  next =>
    rcases List.mem_pair.mp h with h | h
    · omega
    · omega

theorem readUnits_units {units : List Nat} (h : ∀ n ∈ units, n < 0x10000) (s : List Char) :
    isQuotedBody (units.flatMap Json.escapeUnit ++ s) = isQuotedBody s ∧
      readUnits (units.flatMap Json.escapeUnit ++ s) = units ++ readUnits s := by
  induction units with
  | nil => exact ⟨rfl, rfl⟩
  | cons n units ih =>
    have ih := ih fun m hm => h m (List.mem_cons_of_mem n hm)
    rw [List.flatMap_cons, List.append_assoc, isQuotedBody_unit,
      readUnits_unit (h n List.mem_cons_self), ih.1, ih.2]
    exact ⟨rfl, rfl⟩

theorem read_tojsonChar (c : Char) (s : List Char) :
    isQuotedBody ((Json.escapeChar c).flatMap htmlChar ++ s) = isQuotedBody s ∧
      readUnits ((Json.escapeChar c).flatMap htmlChar ++ s) = codeUnits c ++ readUnits s := by
  rcases tojsonChar_cases c with ⟨d, he, rfl, hd⟩ | ⟨he, hq, hb, h1, h2⟩ | he
  · rw [he]
    simp only [List.mem_cons, List.not_mem_nil, or_false] at hd
    rcases hd with rfl | rfl | rfl | rfl | rfl | rfl | rfl
    all_goals exact ⟨by simp [isQuotedBody], by simp [readUnits, codeUnits, Json.unescape]⟩
  · rw [he, List.singleton_append, codeUnits, if_pos (by omega)]
    constructor
    · rw [isQuotedBody]
      · simp [hq]
      all_goals simp [hb]
    · rw [readUnits]
      · rfl
      all_goals simp [hb]
  · rw [he]
    exact readUnits_units (fun n hn => codeUnits_lt hn) s

theorem read_tojsonBody (l : List Char) :
    isQuotedBody (tojsonBody l) = true ∧ readUnits (tojsonBody l) = l.flatMap codeUnits := by
  induction l with
  | nil => exact ⟨rfl, rfl⟩
  | cons c l ih =>
    have hc := read_tojsonChar c (tojsonBody l)
    have hb : tojsonBody (c :: l) = (Json.escapeChar c).flatMap htmlChar ++ tojsonBody l := by
      simp [tojsonBody]
    rw [hb, hc.1, hc.2, ih.1, ih.2]
    exact ⟨rfl, rfl⟩

theorem scalar_tojson (s : String) :
    scalar (tojson s).toList = some (.word (.quoted (tojsonBody s.toList))) := by
  have hl : (tojson s).toList = '"' :: (tojsonBody s.toList ++ ['"']) := by simp [tojson]
  have hd : (tojson s).toList.tail.dropLast = tojsonBody s.toList := by simp [hl]
  have hw : word (tojson s).toList = some (.quoted (tojsonBody s.toList)) := by
    have hlast : (tojson s).toList.getLast? = some '"' := by
      rw [hl, List.getLast?_cons]
      simp
    rw [word, if_pos (by simp [hl]), hd, if_pos ⟨by simp [hl], hlast, (read_tojsonBody _).1⟩]
  rw [scalar, if_neg (by simp [hl]), hw]
  rfl

theorem hexDigit_line (n : Nat) : isLineChar (Json.hexDigit (n % 16)) = true := by
  have hall : (List.range 16).all (fun n => isLineChar (Json.hexDigit n)) = true := by decide
  exact List.all_eq_true.mp hall _ (List.mem_range.mpr (Nat.mod_lt n (by decide)))

theorem line_tojson (s : String) : (tojson s).toList.all isLineChar = true := by
  have hunit : ∀ n, (Json.escapeUnit n).all isLineChar = true := by
    intro n
    simp [Json.escapeUnit, hexDigit_line]
    decide
  have hc : ∀ c, ((Json.escapeChar c).flatMap htmlChar).all isLineChar = true := by
    intro c
    rcases tojsonChar_cases c with ⟨d, he, -, hd⟩ | ⟨he, -, -, h1, h2⟩ | he
    · rw [he]
      simp only [List.mem_cons, List.not_mem_nil, or_false] at hd
      rcases hd with rfl | rfl | rfl | rfl | rfl | rfl | rfl
      all_goals decide
    · simp [he, isLineChar, h1, h2]
    · rw [he, List.all_flatMap, List.all_eq_true]
      exact fun n _ => hunit n
  have hb : (tojsonBody s.toList).all isLineChar = true := by
    rw [tojsonBody, List.flatMap_assoc, List.all_flatMap, List.all_eq_true]
    exact fun c _ => hc c
  simp [tojson, hb, isLineChar]

theorem isValidChar_units (c : Char) :
    (∀ n ∈ codeUnits c, n.isValidChar) ↔ c.toNat < 0x10000 := by
  have hc := Json.toNat_scalar c
  rw [codeUnits]
  split
  next h => simp [h, Nat.isValidChar]; omega
  next h =>
    simp only [List.mem_cons, List.not_mem_nil, or_false, forall_eq_or_imp, forall_eq, h, iff_false,
      Nat.isValidChar]
    omega

theorem unitsValue_text (s : String) : unitsValue (readUnits (tojsonBody s.toList)) =
    if ∀ c ∈ s.toList, c.toNat < 0x10000 then .str s else .other := by
  have hiff : (∀ n ∈ s.toList.flatMap codeUnits, n.isValidChar) ↔
      ∀ c ∈ s.toList, c.toNat < 0x10000 := by
    simp only [List.mem_flatMap, forall_exists_index, and_imp]
    exact ⟨fun h c hc => (isValidChar_units c).mp fun n hn => h n c hc hn,
      fun h n c hc hn => (isValidChar_units c).mpr (h c hc) n hn⟩
  rw [(read_tojsonBody s.toList).2, unitsValue]
  split
  next h =>
    rw [if_pos (hiff.mp h)]
    have hu : ∀ l : List Char, (∀ c ∈ l, c.toNat < 0x10000) →
        (l.flatMap codeUnits).map Char.ofNat = l := by
      intro l hl
      induction l with
      | nil => rfl
      | cons c l ih =>
        rw [List.flatMap_cons, List.map_append, ih fun d hd => hl d (List.mem_cons_of_mem c hd),
          codeUnits, if_pos (hl c List.mem_cons_self)]
        simp
    rw [hu _ (hiff.mp h), String.ofList_toList]
  next h => rw [if_neg fun hs => h (hiff.mpr hs)]

end Yaml

end VibeDPN
