import Mathlib

namespace VibeDPN

variable {α β : Type} [DecidableEq α]

def keepFirst (k : Nat) (found : List α) (x : α) : List α :=
  if k ≤ found.length ∨ x ∈ found then found else found ++ [x]

def firsts (k : Nat) (l : List α) : List α := l.foldl (keepFirst k) []

theorem keepFirst_full {k : Nat} {found : List α} (h : k ≤ found.length) (l : List α) :
    l.foldl (keepFirst k) found = found := by
  induction l with
  | nil => rfl
  | cons x l ih => rw [List.foldl_cons, keepFirst, if_pos (.inl h), ih]

-- each element once, where it appears first
def distinct (k : Nat) (l : List α) : List α := l.eraseDups.take k

def addition (k : Nat) (known l : List α) : List α :=
  distinct (k - known.eraseDups.length) (l.removeAll known)

theorem firsts_append (k : Nat) (a b : List α) :
    firsts k (a ++ b) = b.foldl (keepFirst k) (firsts k a) := List.foldl_append

theorem firsts_concat (k : Nat) (l : List α) (x : α) :
    firsts k (l ++ [x]) = keepFirst k (firsts k l) x := firsts_append k l [x]

theorem firsts_full {k : Nat} {a : List α} (h : k ≤ (firsts k a).length) (b : List α) :
    firsts k (a ++ b) = firsts k a := by
  rw [firsts_append, keepFirst_full h]

theorem mem_keepFirst {k : Nat} {found : List α} {x y : α} (h : x ∈ found) :
    x ∈ keepFirst k found y := by
  rw [keepFirst]
  split
  · exact h
  · exact List.mem_append_left _ h

theorem kept_or_full (k : Nat) (l : List α) :
    ∀ found : List α, k ≤ (l.foldl (keepFirst k) found).length ∨
      ∀ x ∈ found ++ l, x ∈ l.foldl (keepFirst k) found := by
  induction l with
  | nil => simp
  | cons y l ih =>
    intro found
    rw [List.foldl_cons]
    rcases ih (keepFirst k found y) with h | h
    · exact .inl h
    · by_cases hk : k ≤ found.length
      · left
        rw [keepFirst, if_pos (.inl hk), keepFirst_full hk]
        exact hk
      · right
        intro x hx
        apply h
        have hy : y ∈ keepFirst k found y := by
          rw [keepFirst]
          split
          next hc => exact hc.resolve_left hk
          · simp
        rcases List.mem_append.mp hx with hx | hx
        · exact List.mem_append_left _ (mem_keepFirst hx)
        · rcases List.mem_cons.mp hx with rfl | hx
          · exact List.mem_append_left _ hy
          · exact List.mem_append_right _ hx

theorem full_or_mem {k : Nat} {found l : List α} {x : α} (h : x ∈ l) :
    k ≤ (l.foldl (keepFirst k) found).length ∨ x ∈ l.foldl (keepFirst k) found := by
  rcases kept_or_full k l found with hk | hk
  · exact .inl hk
  · exact .inr (hk x (List.mem_append_right _ h))

theorem nodup_firsts (k : Nat) (l : List α) : (firsts k l).Nodup := by
  induction l using List.reverseRecOn with
  | nil => exact .nil
  | append_singleton l x ih =>
    rw [firsts_concat, keepFirst]
    split
    · exact ih
    next hn =>
      rw [not_or] at hn
      exact List.nodup_append.mpr ⟨ih, by simp, by rintro a ha b hb rfl; simp_all⟩

theorem foldl_firsts (k : Nat) (found l : List α) :
    l.foldl (keepFirst k) found = (firsts k l).foldl (keepFirst k) found := by
  induction l using List.reverseRecOn with
  | nil => rfl
  | append_singleton l x ih =>
    rw [firsts_concat, List.foldl_append, List.foldl_cons, List.foldl_nil, ih, keepFirst]
    by_cases hx : k ≤ (firsts k l).length ∨ x ∈ firsts k l
    · rw [keepFirst, if_pos hx, if_pos]
      rcases hx with hk | hx
      · rcases kept_or_full k (firsts k l) found with hf | hf
        · exact .inl hf
        · left
          have hsub : firsts k l ⊆ (firsts k l).foldl (keepFirst k) found :=
            fun y hy => hf y (List.mem_append_right _ hy)
          exact hk.trans ((nodup_firsts k l).subperm hsub).length_le
      · exact full_or_mem hx
    · rw [keepFirst, if_neg hx, List.foldl_append, List.foldl_cons, List.foldl_nil, keepFirst]

theorem firsts_congr {k : Nat} {b c : List α} (h : firsts k b = firsts k c) (a d : List α) :
    firsts k (a ++ b ++ d) = firsts k (a ++ c ++ d) := by
  rw [firsts_append, firsts_append, firsts_append k (a ++ c), firsts_append k a c,
    foldl_firsts k _ b, foldl_firsts k _ c, h]

theorem firsts_flatMap_congr {k : Nat} {f g : β → List α} {l : List β}
    (h : ∀ b ∈ l, firsts k (f b) = firsts k (g b)) :
    firsts k (l.flatMap f) = firsts k (l.flatMap g) := by
  induction l with
  | nil => rfl
  | cons b l ih =>
    have hl := firsts_congr (ih fun c hc => h c (by simp [hc])) (f b) []
    have hb := firsts_congr (h b (by simp)) [] (l.flatMap g)
    simp only [List.append_nil, List.nil_append] at hl hb
    rw [List.flatMap_cons, List.flatMap_cons, hl, hb]

theorem firsts_eq (k : Nat) (l : List α) : firsts k l = distinct k l := by
  rw [distinct]
  induction l using List.reverseRecOn with
  | nil => simp [firsts]
  | append_singleton l x ih =>
    rw [firsts_concat, ih, List.eraseDups_append, keepFirst]
    by_cases hk : k ≤ l.eraseDups.length
    · rw [if_pos (.inl (by simp [hk])), List.take_append_of_le_length hk]
    · rw [List.take_of_length_le (by omega)]
      by_cases hx : x ∈ l
      · rw [if_pos (.inr (List.mem_eraseDups.mpr hx))]
        simp [List.removeAll, hx]
        omega
      · rw [if_neg (by simp [hk, hx])]
        rw [List.take_of_length_le]
        · simp [List.removeAll, hx, List.eraseDups_cons]
        · simp [List.removeAll, hx, List.eraseDups_cons]
          omega

theorem firsts_append_iff (k : Nat) (a b c : List α) :
    firsts k (a ++ b) = firsts k (a ++ c) ↔ addition k a b = addition k a c := by
  rw [firsts_eq, firsts_eq, distinct, distinct, List.eraseDups_append, List.eraseDups_append, List.take_append,
    List.take_append, List.append_cancel_left_eq]
  rfl

-- a search that ends early returns through the error
inductive Settled (k : Nat) (offered : List α) : Except (List α) (List α) → Prop
  | going (h : (firsts k offered).length < k) : Settled k offered (.ok (firsts k offered))
  | ended (h : k ≤ (firsts k offered).length) : Settled k offered (.error (firsts k offered))

theorem Settled.more {k : Nat} {offered found : List α} (h : Settled k offered (.error found))
    (l : List α) : Settled k (offered ++ l) (.error found) := by
  cases h with
  | ended h =>
    have hf := firsts_full h l
    exact hf ▸ Settled.ended (hf ▸ h)

theorem Settled.eq_ok {k : Nat} {offered found : List α} (h : Settled k offered (.ok found)) :
    found = firsts k offered := by
  cases h
  rfl

theorem Settled.eq_error {k : Nat} {offered found : List α}
    (h : Settled k offered (.error found)) : found = firsts k offered := by
  cases h
  rfl

theorem Settled.foldlM {k : Nat} {step : List α → β → Except (List α) (List α)} {g : β → List α}
    (hstep : ∀ {offered found : List α} (b : β), Settled k offered (.ok found) →
      Settled k (offered ++ g b) (step found b)) (l : List β) :
    ∀ {offered found : List α}, Settled k offered (.ok found) →
      Settled k (offered ++ l.flatMap g) (l.foldlM step found) := by
  induction l with
  | nil =>
    intro offered found h
    rw [List.flatMap_nil, List.append_nil]
    exact h
  | cons b l ih =>
    intro offered found h
    have hb := hstep b h
    rw [List.flatMap_cons, ← List.append_assoc, List.foldlM_cons]
    cases hs : step found b with
    | ok next => exact ih (hs ▸ hb)
    | error out => exact Settled.more (hs ▸ hb) _

end VibeDPN
