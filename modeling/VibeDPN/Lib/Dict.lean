import Mathlib

namespace VibeDPN

variable {α β : Type*} [DecidableEq α]

structure Dict (α β : Type*) where
  entries : List (α × β)
  nodup : (entries.map Prod.fst).Nodup
deriving DecidableEq

namespace Dict

def keys (d : Dict α β) : List α := d.entries.map Prod.fst

def values (d : Dict α β) : List β := d.entries.map Prod.snd

def empty : Dict α β := ⟨[], by simp⟩

def get? (d : Dict α β) (k : α) : Option β := d.entries.lookup k

def setEntries (k : α) (v : β) : List (α × β) → List (α × β)
  | [] => [(k, v)]
  | (a, b) :: l => if a = k then (k, v) :: l else (a, b) :: setEntries k v l

theorem lookup_cons_ite (j a : α) (b : β) (l : List (α × β)) :
    ((a, b) :: l).lookup j = if j = a then some b else l.lookup j := by
  by_cases h : j = a
  · simp [h]
  · have hb : (j == a) = false := by simpa using h
    simp [List.lookup_cons, hb, h]

theorem lookup_setEntries (k j : α) (v : β) (l : List (α × β)) :
    (setEntries k v l).lookup j = if j = k then some v else l.lookup j := by
  induction l with
  | nil => simp [setEntries, lookup_cons_ite]
  | cons e l ih =>
    obtain ⟨a, b⟩ := e
    rw [setEntries]
    by_cases hak : a = k
    · subst hak
      by_cases h : j = a <;> simp [lookup_cons_ite, h]
    · rw [if_neg hak, lookup_cons_ite, lookup_cons_ite, ih]
      by_cases hja : j = a
      · subst hja
        simp [hak]
      · simp [hja]

theorem map_fst_setEntries (k : α) (v : β) (l : List (α × β)) :
    (setEntries k v l).map Prod.fst =
      if k ∈ l.map Prod.fst then l.map Prod.fst else l.map Prod.fst ++ [k] := by
  induction l with
  | nil => simp [setEntries]
  | cons e l ih =>
    obtain ⟨a, b⟩ := e
    by_cases hak : a = k
    · simp [setEntries, hak]
    · have hka : ¬ k = a := fun h => hak h.symm
      rw [setEntries, if_neg hak, List.map_cons, ih]
      by_cases hk : k ∈ l.map Prod.fst
      · simp only [hk, List.map_cons, List.mem_cons, or_true, if_true]
      · simp only [hk, List.map_cons, List.mem_cons, hka, or_self, if_false, List.cons_append]

theorem nodup_setEntries (k : α) (v : β) {l : List (α × β)} (h : (l.map Prod.fst).Nodup) :
    ((setEntries k v l).map Prod.fst).Nodup := by
  rw [map_fst_setEntries]
  split
  · exact h
  · rename_i hk
    simpa [List.nodup_append, h] using fun a b hab e => hk (by subst e; simpa using ⟨b, hab⟩)

def set (d : Dict α β) (k : α) (v : β) : Dict α β :=
  ⟨setEntries k v d.entries, nodup_setEntries k v d.nodup⟩

def erase (d : Dict α β) (k : α) : Dict α β :=
  ⟨d.entries.filter (fun e => e.1 ≠ k),
    d.nodup.sublist (List.filter_sublist.map Prod.fst)⟩

def update (d : Dict α β) (l : List (α × β)) : Dict α β := l.foldl (fun d e => d.set e.1 e.2) d

theorem get?_set (d : Dict α β) (k j : α) (v : β) :
    (d.set k v).get? j = if j = k then some v else d.get? j :=
  lookup_setEntries k j v d.entries

@[simp] theorem get?_set_self (d : Dict α β) (k : α) (v : β) : (d.set k v).get? k = some v := by
  simp [get?_set]

theorem get?_set_ne (d : Dict α β) {k j : α} (v : β) (h : j ≠ k) :
    (d.set k v).get? j = d.get? j := by
  simp [get?_set, h]

theorem get?_erase (d : Dict α β) (k j : α) :
    (d.erase k).get? j = if j = k then none else d.get? j := by
  obtain ⟨l, hl⟩ := d
  simp only [erase, get?]
  clear hl
  induction l with
  | nil => simp
  | cons e l ih =>
    obtain ⟨a, b⟩ := e
    by_cases hak : a = k
    · subst hak
      rw [List.filter_cons_of_neg (by simp), ih, lookup_cons_ite]
      by_cases h : j = a <;> simp [h]
    · rw [List.filter_cons_of_pos (by simpa using hak), lookup_cons_ite, lookup_cons_ite, ih]
      by_cases h : j = a
      · subst h
        simp [hak]
      · simp [h]

theorem get?_eq_some_iff (d : Dict α β) (k : α) (v : β) :
    d.get? k = some v ↔ (k, v) ∈ d.entries := by
  obtain ⟨l, hl⟩ := d
  simp only [get?]
  induction l with
  | nil => simp
  | cons e l ih =>
    obtain ⟨a, b⟩ := e
    simp only [List.map_cons, List.nodup_cons] at hl
    rw [lookup_cons_ite]
    by_cases h : k = a
    · subst h
      have hn : ∀ v, (k, v) ∉ l := fun v hv => hl.1 (List.mem_map.mpr ⟨(k, v), hv, rfl⟩)
      simp [hn, eq_comm]
    · simp [ih hl.2, h]

theorem get?_isSome_iff (d : Dict α β) (k : α) : (d.get? k).isSome ↔ k ∈ d.keys := by
  rw [Option.isSome_iff_exists]
  simp [get?_eq_some_iff, keys]

theorem mem_erase_entries {d : Dict α β} {k : α} {e : α × β} :
    e ∈ (d.erase k).entries ↔ e ∈ d.entries ∧ e.1 ≠ k := by
  simp [erase]

theorem setEntries_of_not_mem {k : α} {v : β} {l : List (α × β)} (h : k ∉ l.map Prod.fst) :
    setEntries k v l = l ++ [(k, v)] := by
  induction l with
  | nil => rfl
  | cons e l ih =>
    obtain ⟨a, b⟩ := e
    simp only [List.map_cons, List.mem_cons, not_or] at h
    rw [setEntries, if_neg (fun e => h.1 e.symm), ih h.2, List.cons_append]

theorem entries_update {d : Dict α β} {l : List (α × β)}
    (h : ((d.entries ++ l).map Prod.fst).Nodup) : (d.update l).entries = d.entries ++ l := by
  induction l generalizing d with
  | nil => simp [update]
  | cons e l ih =>
    have hk : e.1 ∉ d.entries.map Prod.fst := by
      intro hm
      rw [List.map_append, List.nodup_append] at h
      exact h.2.2 e.1 hm e.1 (by simp) rfl
    have he : (d.set e.1 e.2).entries = d.entries ++ [e] := setEntries_of_not_mem hk
    have hn : (((d.set e.1 e.2).entries ++ l).map Prod.fst).Nodup := by
      rw [he]
      simpa using h
    have hu := ih hn
    rw [he, List.append_assoc] at hu
    exact hu

-- the key moves to the end, as in OrderedDict
def pushLast (d : Dict α β) (k : α) (v : β) : Dict α β where
  entries := (d.erase k).entries ++ [(k, v)]
  nodup := by
    have hk : k ∉ (d.erase k).entries.map Prod.fst := by simp [erase]
    simpa [List.nodup_append, (d.erase k).nodup] using fun a b hab e => hk (by
      subst e
      exact List.mem_map.mpr ⟨(a, b), hab, rfl⟩)

def keepLast (d : Dict α β) (n : Nat) : Dict α β :=
  ⟨d.entries.drop (d.entries.length - n), d.nodup.sublist ((List.drop_sublist _ _).map Prod.fst)⟩

theorem mem_set {d : Dict α β} {k : α} {v : β} {e : α × β} (h : e ∈ (d.set k v).entries) :
    e ∈ d.entries ∨ e = (k, v) := by
  rw [← get?_eq_some_iff, get?_set] at h
  split at h
  · rename_i hk
    simp only [Option.some.injEq] at h
    exact .inr (Prod.ext hk h.symm)
  · exact .inl ((get?_eq_some_iff _ _ _).mp h)

theorem mem_update {d : Dict α β} {l : List (α × β)} {e : α × β} (h : e ∈ (d.update l).entries) :
    e ∈ d.entries ∨ e ∈ l := by
  induction l generalizing d with
  | nil => exact .inl h
  | cons x l ih =>
    rcases ih h with h | h
    · rcases mem_set h with h | rfl
      · exact .inl h
      · exact .inr (by simp)
    · exact .inr (by simp [h])

theorem get?_update (d : Dict α β) (l : List (α × β)) (k : α) :
    (d.update l).get? k = (l.reverse.lookup k).or (d.get? k) := by
  induction l generalizing d with
  | nil => simp [update]
  | cons e l ih =>
    have h : (d.update (e :: l)).get? k = (l.reverse.lookup k).or ((d.set e.1 e.2).get? k) := ih _
    rw [h, get?_set, List.reverse_cons, List.lookup_append]
    have he : List.lookup k [e] = if k = e.1 then some e.2 else none := lookup_cons_ite k e.1 e.2 []
    rw [he]
    cases l.reverse.lookup k with
    | some v => rfl
    | none =>
      by_cases hk : k = e.1 <;> simp [hk]

theorem get?_update_of_not_mem {d : Dict α β} {l : List (α × β)} {k : α}
    (h : k ∉ l.map Prod.fst) : (d.update l).get? k = d.get? k := by
  have hn : l.reverse.lookup k = none := by
    rw [List.lookup_eq_none_iff]
    intro e he
    have hne : k ≠ e.1 := fun hk => h (List.mem_map.mpr ⟨e, by simpa using he, hk.symm⟩)
    simpa using hne
  rw [get?_update, hn, Option.none_or]

theorem update_append (d : Dict α β) (l m : List (α × β)) :
    d.update (l ++ m) = (d.update l).update m := by
  simp only [update, List.foldl_append]

theorem update_cons (d : Dict α β) (e : α × β) (l : List (α × β)) :
    d.update (e :: l) = (d.set e.1 e.2).update l := by
  simp only [update, List.foldl_cons]

theorem get?_update_of_all {d : Dict α β} {l : List (α × β)} {k : α} {v : β}
    (hk : k ∈ l.map Prod.fst) (hv : ∀ e ∈ l, e.1 = k → e.2 = v) :
    (d.update l).get? k = some v := by
  induction l generalizing d with
  | nil => simp at hk
  | cons e l ih =>
    rw [update_cons]
    by_cases hl : k ∈ l.map Prod.fst
    · exact ih hl (fun x hx => hv x (by simp [hx]))
    · rw [get?_update_of_not_mem hl]
      have hke : k = e.1 := by simpa [hl] using hk
      rw [hke, get?_set_self, hv e (by simp) hke.symm]

theorem ext_entries {α β : Type*} {d e : Dict α β} (h : d.entries = e.entries) : d = e := by
  cases d
  cases e
  cases h
  rfl

theorem mem_keys_set {d : Dict α β} {j k : α} {v : β} : j ∈ (d.set k v).keys ↔ j = k ∨ j ∈ d.keys := by
  rw [← get?_isSome_iff, ← get?_isSome_iff, get?_set]
  split
  · simp [*]
  · simp [*]

theorem erase_of_not_mem {d : Dict α β} {k : α} (h : k ∉ d.keys) : d.erase k = d := by
  refine ext_entries ?_
  rw [erase, List.filter_eq_self]
  intro e he
  rw [decide_eq_true_eq]
  intro hek
  exact h (hek ▸ List.mem_map_of_mem he)

end Dict

end VibeDPN
