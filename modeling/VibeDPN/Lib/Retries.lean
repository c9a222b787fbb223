import Mathlib

namespace VibeDPN.Retries

variable {α β : Type*}

-- what a handler was given, what it is done with, and the item it failed on last
inductive Given : List α → List α → Option α → Prop
  | start : Given [] [] none
  | done {given handled : List α} {failing : Option α} (a : α) : Given given handled failing →
      (∀ x ∈ failing, x = a) → Given (given ++ [a]) (handled ++ [a]) none
  | failed {given handled : List α} {failing : Option α} (a : α) : Given given handled failing →
      (∀ x ∈ failing, x = a) → Given (given ++ [a]) handled (some a)

namespace Given

variable {given handled : List α} {failing : Option α}

theorem batch {batch : List α} {next : Option α} (h : Given given handled failing)
    (hf : ∀ x ∈ failing, (batch ++ next.toList).head? = some x) :
    Given (given ++ (batch ++ next.toList)) (handled ++ batch) next := by
  induction batch generalizing given handled failing with
  | nil =>
    cases next with
    | none =>
      cases failing with
      | none => simpa using h
      | some x => simpa using hf x rfl
    | some a =>
      have ha : ∀ x ∈ failing, x = a := fun x hx => by simpa using (hf x hx).symm
      simpa using h.failed a ha
  | cons a batch ih =>
    have ha : ∀ x ∈ failing, x = a := fun x hx => by simpa using (hf x hx).symm
    have hrest := ih (h.done a ha) fun x hx => by simp at hx
    simpa using hrest

end Given

theorem rtake_append (old mid : List α) (n : Nat) :
    (mid.length ≤ n ∧ ∃ o, (old ++ mid).rtake n = o ++ mid) ∨
      (n < mid.length ∧ (old ++ mid).rtake n = mid.rtake n) := by
  simp only [List.rtake, List.length_append]
  by_cases h : mid.length ≤ n
  · refine .inl ⟨h, old.drop (old.length + mid.length - n), ?_⟩
    rw [List.drop_append_of_le_length (by omega)]
  · refine .inr ⟨by omega, ?_⟩
    have hd : old.length + mid.length - n = old.length + (mid.length - n) := by omega
    rw [hd, ← List.drop_drop, List.drop_left]

theorem rtake_suffix (l : List α) (n : Nat) : l.rtake n <:+ l := List.drop_suffix _ _

theorem length_rtake (l : List α) (n : Nat) : (l.rtake n).length = min l.length n := by
  rw [List.rtake, List.length_drop]
  omega

theorem length_filterMap_of_isSome {f : α → Option β} {l : List α} (h : ∀ a ∈ l, (f a).isSome) :
    (l.filterMap f).length = l.length := by
  induction l with
  | nil => rfl
  | cons a l ih =>
    obtain ⟨b, hb⟩ := Option.isSome_iff_exists.mp (h a (by simp))
    rw [List.filterMap_cons_some hb, List.length_cons, List.length_cons,
      ih fun x hx => h x (by simp [hx])]

theorem page_share {f : α → Option β} {old mid : List α} {n : Nat} (h : ∀ a ∈ mid, (f a).isSome) :
    min mid.length n ≤ (((old ++ mid).rtake n).filterMap f).length := by
  rcases rtake_append old mid n with ⟨hle, o, ho⟩ | ⟨hlt, hm⟩
  · rw [ho, List.filterMap_append, List.length_append, length_filterMap_of_isSome h]
    omega
  · rw [hm, length_filterMap_of_isSome fun a ha => h a ((rtake_suffix mid n).subset ha),
      length_rtake]

theorem page_covers {f : α → Option β} {old mid : List α} {n : Nat} (h : mid.length ≤ n) :
    (mid.filterMap f).length ≤ (((old ++ mid).rtake n).filterMap f).length := by
  rcases rtake_append old mid n with ⟨-, o, ho⟩ | ⟨hlt, -⟩
  · rw [ho, List.filterMap_append, List.length_append]
    omega
  · omega

theorem suffix_split {l a b : List α} (ha : a <:+ l) (hb : b <:+ l) (hlen : a.length ≤ b.length) :
    ∃ c, b = c ++ a ∧ ∃ d, l = d ++ (c ++ a) := by
  obtain ⟨c, rfl⟩ := List.suffix_of_suffix_length_le ha hb hlen
  obtain ⟨d, hd⟩ := hb
  exact ⟨c, rfl, d, hd.symm⟩

end VibeDPN.Retries
