import Mathlib

namespace VibeDPN.Spaced

-- words with a blank after each, as a shell keeps a list in one variable
def spaced (l : List (List Char)) : List Char := l.flatMap (· ++ [' '])

def found (l m : List Char) : Bool := m.tails.any l.isPrefixOf

theorem found_iff {l m : List Char} : found l m = true ↔ l <:+: m := by
  rw [found, List.any_eq_true, List.infix_iff_prefix_suffix]
  simp only [List.mem_tails, List.isPrefixOf_iff_prefix]
  exact exists_congr fun t => and_comm

theorem infix_skip {l m t : List Char} (ht : ' ' ∉ t) :
    (' ' :: l) <:+: t ++ m ↔ (' ' :: l) <:+: m := by
  induction t with
  | nil => rfl
  | cons c t ih =>
    rw [List.mem_cons, not_or] at ht
    rw [List.cons_append, List.infix_cons_iff, ih ht.2]
    refine or_iff_right ?_
    intro h
    exact ht.1 (List.cons_prefix_cons.mp h).1

theorem prefix_word {c t m : List Char} (hc : ' ' ∉ c) (ht : ' ' ∉ t) :
    c ++ [' '] <+: t ++ ' ' :: m ↔ c = t := by
  induction c generalizing t with
  | nil =>
    cases t with
    | nil => simp
    | cons a t =>
      have ha : ' ' ≠ a := fun h => ht (h ▸ List.mem_cons_self)
      simp [ha]
  | cons a c ih =>
    rw [List.mem_cons, not_or] at hc
    cases t with
    | nil =>
      have ha : a ≠ ' ' := fun h => hc.1 h.symm
      simp [ha]
    | cons b t =>
      rw [List.mem_cons, not_or] at ht
      rw [List.cons_append, List.cons_append, List.cons_prefix_cons, ih hc.2 ht.2, List.cons.injEq]

theorem infix_iff {c : List Char} (hc : ' ' ∉ c) (hne : c ≠ []) {l : List (List Char)}
    (hl : ∀ t ∈ l, ' ' ∉ t) :
    (' ' :: c ++ [' ']) <:+: ' ' :: spaced l ++ [' '] ↔ c ∈ l := by
  induction l with
  | nil =>
    have hs : ' ' :: spaced [] ++ [' '] = [' ', ' '] := rfl
    rw [hs, List.cons_append, List.infix_cons_iff]
    cases c with
    | nil => exact absurd rfl hne
    | cons a c =>
      have ha : a ≠ ' ' := fun h => hc (h ▸ List.mem_cons_self)
      simp [List.infix_cons_iff, ha]
  | cons t l ih =>
    have ht := hl t (by simp)
    have hs : ' ' :: spaced (t :: l) ++ [' '] = ' ' :: (t ++ (' ' :: spaced l ++ [' '])) := by
      simp [spaced]
    rw [hs, List.cons_append, List.infix_cons_iff, List.cons_prefix_cons, List.cons_append,
      prefix_word hc ht, infix_skip ht, ← List.cons_append, ← List.cons_append,
      ih fun u hu => hl u (by simp [hu]), List.mem_cons]
    simp

end VibeDPN.Spaced
