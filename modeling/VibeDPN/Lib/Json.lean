import VibeDPN.Lib.Text

namespace VibeDPN

inductive Json where
  | null
  | bool (b : Bool)
  | num (n : Nat)
  | str (s : String)
  | arr (items : List Json)
  | obj (members : List (String × Json))

namespace Json

def hexDigit (n : Nat) : Char := if n < 10 then Char.ofNat (48 + n) else Char.ofNat (87 + n)

def hexValue (c : Char) : Nat := if c.toNat < 58 then c.toNat - 48 else c.toNat - 87

def escapeUnit (n : Nat) : List Char :=
  ['\\', 'u', hexDigit (n / 4096 % 16), hexDigit (n / 256 % 16), hexDigit (n / 16 % 16),
    hexDigit (n % 16)]

def escapeChar (c : Char) : List Char :=
  if c = '"' then ['\\', '"']
  else if c = '\\' then ['\\', '\\']
  else if c = '\n' then ['\\', 'n']
  else if c = '\r' then ['\\', 'r']
  else if c = '\t' then ['\\', 't']
  else if c = '\x0c' then ['\\', 'f']
  else if c = '\x08' then ['\\', 'b']
  else if 32 ≤ c.toNat ∧ c.toNat ≤ 126 then [c]
  else if c.toNat < 0x10000 then escapeUnit c.toNat
  else
    escapeUnit (0xd800 + (c.toNat - 0x10000) / 1024) ++
      escapeUnit (0xdc00 + (c.toNat - 0x10000) % 1024)

def escapeString (s : List Char) : List Char := '"' :: s.flatMap escapeChar ++ ['"']

-- members stand in the order sort_keys prints them
mutual

def dump : Json → List Char
  | null => ['n', 'u', 'l', 'l']
  | bool true => ['t', 'r', 'u', 'e']
  | bool false => ['f', 'a', 'l', 's', 'e']
  | num n => (toString n).toList
  | str s => escapeString s.toList
  | arr [] => ['[', ']']
  | arr (item :: items) => '[' :: (item.dump ++ dumpItems items)
  | obj [] => ['{', '}']
  | obj ((key, value) :: members) =>
    '{' :: (escapeString key.toList ++ ':' :: (value.dump ++ dumpMembers members))

def dumpItems : List Json → List Char
  | [] => [']']
  | item :: items => ',' :: (item.dump ++ dumpItems items)

def dumpMembers : List (String × Json) → List Char
  | [] => ['}']
  | (key, value) :: members =>
    ',' :: (escapeString key.toList ++ ':' :: (value.dump ++ dumpMembers members))

end

def dumps (j : Json) : String := String.ofList j.dump

theorem hexValue_hexDigit {n : Nat} (h : n < 16) : hexValue (hexDigit n) = n := by
  have hall : (List.range 16).all (fun n => hexValue (hexDigit n) = n) = true := by decide
  simpa using List.all_eq_true.mp hall n (List.mem_range.mpr h)

def readUnit : List Char → Nat × List Char
  | a :: b :: c :: d :: rest =>
    (((hexValue a * 16 + hexValue b) * 16 + hexValue c) * 16 + hexValue d, rest)
  | rest => (0, rest)

def readSecond (first : Nat) : List Char → Char × List Char
  | '\\' :: 'u' :: rest =>
    (Char.ofNat (0x10000 + (first - 0xd800) * 1024 + ((readUnit rest).1 - 0xdc00)),
      (readUnit rest).2)
  | rest => (Char.ofNat first, rest)

def unescape (c : Char) : Char :=
  if c = 'n' then '\n'
  else if c = 'r' then '\r'
  else if c = 't' then '\t'
  else if c = 'f' then '\x0c'
  else if c = 'b' then '\x08'
  else c

def readChar : List Char → Char × List Char
  | '\\' :: 'u' :: rest =>
    if 0xd800 ≤ (readUnit rest).1 ∧ (readUnit rest).1 < 0xdc00 then
      readSecond (readUnit rest).1 (readUnit rest).2
    else (Char.ofNat (readUnit rest).1, (readUnit rest).2)
  | '\\' :: c :: rest => (unescape c, rest)
  | c :: rest => (c, rest)
  | [] => (' ', [])

theorem readUnit_escape {n : Nat} (h : n < 0x10000) (s : List Char) :
    readUnit ((escapeUnit n).drop 2 ++ s) = (n, s) := by
  simp only [escapeUnit, List.drop_succ_cons, List.drop_zero, List.cons_append, List.nil_append,
    readUnit]
  rw [hexValue_hexDigit (by omega), hexValue_hexDigit (by omega), hexValue_hexDigit (by omega),
    hexValue_hexDigit (by omega)]
  congr 1
  omega

theorem escapeUnit_eq (n : Nat) : escapeUnit n = '\\' :: 'u' :: (escapeUnit n).drop 2 := rfl

theorem toNat_scalar (c : Char) : c.toNat < 0xd800 ∨ 0xdfff < c.toNat ∧ c.toNat < 0x110000 := by
  have h := c.valid
  rwa [UInt32.isValidChar, Nat.isValidChar] at h

theorem readChar_escape (c : Char) (s : List Char) : readChar (escapeChar c ++ s) = (c, s) := by
  have hc := toNat_scalar c
  rw [escapeChar]
  split
  · subst_vars; rfl
  split
  · subst_vars; rfl
  split
  · subst_vars; rfl
  split
  · subst_vars; rfl
  split
  · subst_vars; rfl
  split
  · subst_vars; rfl
  split
  · subst_vars; rfl
  split
  · rename_i hback _ _ _ _ _ _
    rw [List.singleton_append]
    exact readChar.eq_3 _ _ (fun _ he _ => hback he) (fun _ _ he _ => hback he)
  split
  · rename_i hunit
    rw [escapeUnit_eq, List.cons_append, List.cons_append, readChar, readUnit_escape hunit,
      if_neg (by omega), Char.ofNat_toNat]
  · rename_i hwide
    rw [List.append_assoc, escapeUnit_eq, List.cons_append, List.cons_append, readChar,
      readUnit_escape (by omega), if_pos (by simp only; omega)]
    rw [escapeUnit_eq, List.cons_append, List.cons_append, readSecond, readUnit_escape (by omega)]
    have hn : 0x10000 + (0xd800 + (c.toNat - 0x10000) / 1024 - 0xd800) * 1024 +
        (0xdc00 + (c.toNat - 0x10000) % 1024 - 0xdc00) = c.toNat := by omega
    simp only [hn, Char.ofNat_toNat]

theorem escapeChar_head (c : Char) : ∃ a rest, escapeChar c = a :: rest ∧ a ≠ '"' := by
  rw [escapeChar]
  split
  · exact ⟨_, _, rfl, by decide⟩
  split
  · exact ⟨_, _, rfl, by decide⟩
  split
  · exact ⟨_, _, rfl, by decide⟩
  split
  · exact ⟨_, _, rfl, by decide⟩
  split
  · exact ⟨_, _, rfl, by decide⟩
  split
  · exact ⟨_, _, rfl, by decide⟩
  split
  · exact ⟨_, _, rfl, by decide⟩
  split
  · exact ⟨_, _, rfl, by assumption⟩
  split
  · exact ⟨_, _, rfl, by decide⟩
  · exact ⟨_, _, rfl, by decide⟩

theorem escape_inj {l m s t : List Char}
    (h : l.flatMap escapeChar ++ '"' :: s = m.flatMap escapeChar ++ '"' :: t) : l = m ∧ s = t := by
  induction l generalizing m with
  | nil =>
    cases m with
    | nil => simpa using h
    | cons d m =>
      obtain ⟨a, rest, hd, ha⟩ := escapeChar_head d
      simp only [List.flatMap_nil, List.flatMap_cons, List.nil_append, hd, List.cons_append,
        List.cons.injEq] at h
      exact absurd h.1.symm ha
  | cons c l ih =>
    cases m with
    | nil =>
      obtain ⟨a, rest, hc, ha⟩ := escapeChar_head c
      simp only [List.flatMap_nil, List.flatMap_cons, List.nil_append, hc, List.cons_append,
        List.cons.injEq] at h
      exact absurd h.1 ha
    | cons d m =>
      simp only [List.flatMap_cons, List.append_assoc] at h
      have hr := congrArg readChar h
      rw [readChar_escape, readChar_escape, Prod.mk.injEq] at hr
      obtain ⟨hl, hs⟩ := ih hr.2
      exact ⟨by rw [hr.1, hl], hs⟩

theorem escapeString_inj {l m s t : List Char}
    (h : escapeString l ++ s = escapeString m ++ t) : l = m ∧ s = t := by
  simp only [escapeString, List.cons_append, List.append_assoc, List.cons.injEq, true_and,
    List.nil_append] at h
  exact escape_inj h

def Stops (s : List Char) : Prop := ∀ c ∈ s.head?, c.isDigit = false

theorem nat_inj {m n : Nat} {s t : List Char} (hs : Stops s) (ht : Stops t)
    (h : (toString m).toList ++ s = (toString n).toList ++ t) : m = n ∧ s = t := by
  have hd : ∀ (n : Nat) {s : List Char}, Stops s →
      ((toString n).toList ++ s).takeWhile Char.isDigit = (toString n).toList := by
    intro n s hs
    have hall : ∀ c ∈ (toString n).toList, c.isDigit = true := by
      intro c hc
      exact Nat.isDigit_of_mem_toDigits (by decide) (by decide) (Nat.toList_repr ▸ hc)
    rw [List.takeWhile_append_of_pos hall]
    cases s with
    | nil => simp
    | cons c s => simp [hs c rfl]
  have he := congrArg (List.takeWhile Char.isDigit) h
  rw [hd m hs, hd n ht, String.toList_inj] at he
  obtain rfl : m = n := Nat.repr_injective he
  exact ⟨rfl, List.append_cancel_left h⟩

def tag (c : Char) : Nat :=
  if c = 'n' then 0
  else if c = 't' ∨ c = 'f' then 1
  else if c.isDigit then 2
  else if c = '"' then 3
  else if c = '[' then 4
  else if c = '{' then 5
  else 6

def kind : Json → Nat
  | null => 0
  | bool _ => 1
  | num _ => 2
  | str _ => 3
  | arr _ => 4
  | obj _ => 5

theorem dump_head (j : Json) : ∃ c rest, j.dump = c :: rest ∧ tag c = j.kind := by
  cases j with
  | null => exact ⟨_, _, by rw [dump], rfl⟩
  | bool b =>
    cases b with
    | false => exact ⟨_, _, by rw [dump], rfl⟩
    | true => exact ⟨_, _, by rw [dump], rfl⟩
  | num n =>
    obtain ⟨c, rest, hc⟩ := List.exists_cons_of_ne_nil (Nat.toDigits_ne_nil (n := n) (b := 10))
    have hd : c.isDigit = true := Nat.isDigit_of_mem_toDigits (by decide) (by decide)
      (hc ▸ List.mem_cons_self)
    refine ⟨c, rest, by rw [dump, ← hc]; exact Nat.toList_repr, ?_⟩
    have hn : c ≠ 'n' ∧ c ≠ 't' ∧ c ≠ 'f' := by
      refine ⟨?_, ?_, ?_⟩
      all_goals rintro rfl; exact absurd hd (by decide)
    simp [tag, kind, hd, hn]
  | str s => exact ⟨_, _, by rw [dump, escapeString, List.cons_append], rfl⟩
  | arr items =>
    cases items with
    | nil => exact ⟨_, _, by rw [dump], rfl⟩
    | cons item items => exact ⟨_, _, by rw [dump], rfl⟩
  | obj members =>
    cases members with
    | nil => exact ⟨_, _, by rw [dump], rfl⟩
    | cons member members => exact ⟨_, _, by rw [dump], rfl⟩

theorem kind_eq {a b : Json} {s t : List Char} (h : a.dump ++ s = b.dump ++ t) :
    a.kind = b.kind := by
  obtain ⟨c, l, hc, hct⟩ := dump_head a
  obtain ⟨d, m, hd, hdt⟩ := dump_head b
  rw [hc, hd, List.cons_append, List.cons_append, List.cons.injEq] at h
  rw [← hct, ← hdt, h.1]

theorem stops_items (items : List Json) (s : List Char) : Stops (dumpItems items ++ s) := by
  cases items with
  | nil => simp [Stops, dumpItems]
  | cons item items => simp [Stops, dumpItems]

theorem stops_members (members : List (String × Json)) (s : List Char) :
    Stops (dumpMembers members ++ s) := by
  cases members with
  | nil => simp [Stops, dumpMembers]
  | cons member members => simp [Stops, dumpMembers]

mutual

theorem dump_append_inj : ∀ (a b : Json) (s t : List Char), Stops s → Stops t →
    a.dump ++ s = b.dump ++ t → a = b ∧ s = t
  | null, b, s, t, _, _, h => by
    have hk := kind_eq h
    cases b with
    | null => exact ⟨rfl, List.append_cancel_left h⟩
    | _ => simp [kind] at hk
  | bool x, b, s, t, _, _, h => by
    have hk := kind_eq h
    cases b with
    | bool y =>
      cases x <;> cases y <;> simp [dump] at h ⊢
      · exact h
      · exact h
    | _ => simp [kind] at hk
  | num m, b, s, t, hs, ht, h => by
    have hk := kind_eq h
    cases b with
    | num n =>
      rw [dump, dump] at h
      obtain ⟨rfl, he⟩ := nat_inj hs ht h
      exact ⟨rfl, he⟩
    | _ => simp [kind] at hk
  | str x, b, s, t, _, _, h => by
    have hk := kind_eq h
    cases b with
    | str y =>
      rw [dump, dump] at h
      obtain ⟨hx, he⟩ := escapeString_inj h
      exact ⟨by rw [String.toList_inj.mp hx], he⟩
    | _ => simp [kind] at hk
  | arr [], b, s, t, _, _, h => by
    have hk := kind_eq h
    cases b with
    | arr items =>
      cases items with
      | nil => exact ⟨rfl, List.append_cancel_left h⟩
      | cons item items =>
        obtain ⟨c, rest, hc, hct⟩ := dump_head item
        simp only [dump, hc, List.cons_append, List.cons.injEq, true_and] at h
        have ht : item.kind = 6 := hct.symm.trans (congrArg tag h.1.symm)
        cases item <;> simp [kind] at ht
    | _ => simp [kind] at hk
  | arr (item :: items), b, s, t, hs, ht, h => by
    have hk := kind_eq h
    cases b with
    | arr others =>
      cases others with
      | nil =>
        obtain ⟨c, rest, hc, hct⟩ := dump_head item
        simp only [dump, hc, List.cons_append, List.cons.injEq, true_and] at h
        have ht : item.kind = 6 := hct.symm.trans (congrArg tag h.1)
        cases item <;> simp [kind] at ht
      | cons other others =>
        simp only [dump, List.cons_append, List.append_assoc, List.cons.injEq, true_and] at h
        obtain ⟨hi, hr⟩ := dump_append_inj item other _ _ (stops_items _ _) (stops_items _ _) h
        obtain ⟨hr, he⟩ := dumpItems_inj items others s t hs ht hr
        exact ⟨by rw [hi, hr], he⟩
    | _ => simp [kind] at hk
  | obj [], b, s, t, _, _, h => by
    have hk := kind_eq h
    cases b with
    | obj members =>
      cases members with
      | nil => exact ⟨rfl, List.append_cancel_left h⟩
      | cons member members => simp [dump, escapeString] at h
    | _ => simp [kind] at hk
  | obj ((key, value) :: members), b, s, t, hs, ht, h => by
    have hk := kind_eq h
    cases b with
    | obj others =>
      cases others with
      | nil => simp [dump, escapeString] at h
      | cons other others =>
        simp only [dump, List.cons_append, List.append_assoc, List.cons.injEq, true_and] at h
        obtain ⟨hkey, h⟩ := escapeString_inj h
        simp only [List.cons.injEq, true_and] at h
        obtain ⟨hv, hr⟩ :=
          dump_append_inj value other.2 _ _ (stops_members _ _) (stops_members _ _) h
        obtain ⟨hr, he⟩ := dumpMembers_inj members others s t hs ht hr
        exact ⟨by rw [String.toList_inj.mp hkey, hv, hr], he⟩
    | _ => simp [kind] at hk

theorem dumpItems_inj : ∀ (l m : List Json) (s t : List Char), Stops s → Stops t →
    dumpItems l ++ s = dumpItems m ++ t → l = m ∧ s = t
  | [], m, s, t, _, _, h => by
    cases m with
    | nil => exact ⟨rfl, List.append_cancel_left h⟩
    | cons other others => simp [dumpItems] at h
  | item :: items, m, s, t, hs, ht, h => by
    cases m with
    | nil => simp [dumpItems] at h
    | cons other others =>
      simp only [dumpItems, List.cons_append, List.append_assoc, List.cons.injEq, true_and] at h
      obtain ⟨hi, hr⟩ := dump_append_inj item other _ _ (stops_items _ _) (stops_items _ _) h
      obtain ⟨hr, he⟩ := dumpItems_inj items others s t hs ht hr
      exact ⟨by rw [hi, hr], he⟩

theorem dumpMembers_inj : ∀ (l m : List (String × Json)) (s t : List Char), Stops s → Stops t →
    dumpMembers l ++ s = dumpMembers m ++ t → l = m ∧ s = t
  | [], m, s, t, _, _, h => by
    cases m with
    | nil => exact ⟨rfl, List.append_cancel_left h⟩
    | cons other others => simp [dumpMembers] at h
  | (key, value) :: members, m, s, t, hs, ht, h => by
    cases m with
    | nil => simp [dumpMembers] at h
    | cons other others =>
      simp only [dumpMembers, List.cons_append, List.append_assoc, List.cons.injEq, true_and] at h
      obtain ⟨hkey, h⟩ := escapeString_inj h
      simp only [List.cons.injEq, true_and] at h
      obtain ⟨hv, hr⟩ :=
        dump_append_inj value other.2 _ _ (stops_members _ _) (stops_members _ _) h
      obtain ⟨hr, he⟩ := dumpMembers_inj members others s t hs ht hr
      exact ⟨by rw [String.toList_inj.mp hkey, hv, hr], he⟩

end

theorem dumps_injective : Function.Injective dumps := by
  intro a b h
  have hd : a.dump ++ [] = b.dump ++ [] := by
    rw [List.append_nil, List.append_nil]
    simpa [dumps] using congrArg String.toList h
  exact (dump_append_inj a b [] [] (fun _ h => by simp at h) (fun _ h => by simp at h) hd).1

end Json

end VibeDPN
