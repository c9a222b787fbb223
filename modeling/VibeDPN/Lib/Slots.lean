import Mathlib

namespace VibeDPN

variable {α β : Type*}

def slots (l : List α) (slot : Nat → β) : List (α × β) := l.zipIdx.map (fun e => (e.1, slot e.2))

theorem slots_fst (l : List α) (slot : Nat → β) : (slots l slot).map Prod.fst = l := by
  apply List.ext_getElem <;> simp [slots]

theorem slots_snd (l : List α) (slot : Nat → β) :
    (slots l slot).map Prod.snd = (List.range l.length).map slot := by
  apply List.ext_getElem <;> simp [slots]

theorem mem_slots {l : List α} {slot : Nat → β} {a : α} {b : β} :
    (a, b) ∈ slots l slot ↔ ∃ i, l[i]? = some a ∧ b = slot i := by
  simp only [slots, List.mem_map, Prod.mk.injEq, Prod.exists, List.mem_zipIdx_iff_getElem?]
  constructor
  · rintro ⟨x, i, hx, rfl, rfl⟩
    exact ⟨i, hx, rfl⟩
  · rintro ⟨i, hx, rfl⟩
    exact ⟨a, i, hx, rfl, rfl⟩

theorem map_eq_of_injOn {f : α → β} {l m : List α}
    (hf : ∀ a ∈ l, ∀ b ∈ m, f a = f b → a = b) (h : l.map f = m.map f) : l = m := by
  induction l generalizing m with
  | nil => simpa [eq_comm] using h
  | cons a l ih =>
    cases m with
    | nil => simp at h
    | cons b m =>
      simp only [List.map_cons, List.cons.injEq] at h
      rw [hf a (by simp) b (by simp) h.1,
        ih (fun x hx y hy => hf x (by simp [hx]) y (by simp [hy])) h.2]

theorem eq_of_filterMap {f : α → Option β} {l : List α} (h : (l.filterMap f).Nodup) {a b : α}
    {k : β} (ha : a ∈ l) (hb : b ∈ l) (hak : f a = some k) (hbk : f b = some k) : a = b := by
  induction l with
  | nil => simp at ha
  | cons x l ih =>
    have hx : f x = some k → ∀ y ∈ l, f y ≠ some k := by
      intro hxk y hy hyk
      rw [List.filterMap_cons_some hxk, List.nodup_cons] at h
      exact h.1 (List.mem_filterMap.mpr ⟨y, hy, hyk⟩)
    have hl : (l.filterMap f).Nodup := h.sublist ((List.sublist_cons_self x l).filterMap f)
    rcases List.mem_cons.mp ha with hax | ha
    · rcases List.mem_cons.mp hb with hbx | hb
      · exact hax.trans hbx.symm
      · exact absurd hbk (hx (hax ▸ hak) b hb)
    · rcases List.mem_cons.mp hb with hbx | hb
      · exact absurd hak (hx (hbx ▸ hbk) a ha)
      · exact ih hl ha hb

def Aligned (l m : List α) : Prop := ∀ (i : Nat) (a b : α), l[i]? = some a → m[i]? = some b → a = b

theorem aligned_cons {a b : α} {l m : List α} :
    Aligned (a :: l) (b :: m) ↔ a = b ∧ Aligned l m := by
  constructor
  · exact fun h => ⟨h 0 a b rfl rfl, fun i x y hx hy => h (i + 1) x y hx hy⟩
  · rintro ⟨hab, h⟩ i x y hx hy
    cases i with
    | zero =>
      simp only [List.getElem?_cons_zero, Option.some.injEq] at hx hy
      rw [← hx, ← hy, hab]
    | succ i => exact h i x y hx hy

theorem aligned_iff_agree {l m : List α} : Aligned l m ↔ l <+: m ∨ m <+: l := by
  induction l generalizing m with
  | nil => simp [Aligned]
  | cons a l ih =>
    cases m with
    | nil => simp [Aligned]
    | cons b m =>
      rw [aligned_cons, ih, List.cons_prefix_cons, List.cons_prefix_cons, eq_comm, ← and_or_left]

end VibeDPN
