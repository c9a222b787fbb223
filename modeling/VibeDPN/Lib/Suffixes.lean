import Mathlib

namespace VibeDPN

variable {α β γ : Type*}

-- the first answer over the suffixes of a list, the longest first; a single element is not asked
def suffixWalk (find : List α → Option β) : List α → Option β
  | [] => none
  | [_] => none
  | a :: b :: l =>
    match find (a :: b :: l) with
    | some found => some found
    | none => suffixWalk find (b :: l)

structure LongestSuffix (find : List α → Option β) (l ending : List α) : Prop where
  suffix : ending <:+ l
  two : 2 ≤ ending.length
  longest : ∀ other, other <:+ l → ending.length < other.length → find other = none

theorem suffixWalk_none_iff {find : List α → Option β} {l : List α} :
    suffixWalk find l = none ↔ ∀ suffix, suffix <:+ l → 2 ≤ suffix.length → find suffix = none := by
  induction l using suffixWalk.induct find with
  | case1 =>
    simp only [suffixWalk, List.suffix_nil, true_iff]
    rintro suffix rfl h
    simp at h
  | case2 a =>
    simp only [suffixWalk, true_iff]
    intro suffix hs h
    have := hs.length_le
    simp only [List.length_cons, List.length_nil] at this
    omega
  | case3 a b l found hf =>
    rw [suffixWalk, hf]
    simp only [reduceCtorEq, false_iff, not_forall]
    exact ⟨a :: b :: l, List.suffix_refl _, by simp, by simp [hf]⟩
  | case4 a b l hf ih =>
    rw [suffixWalk, hf]
    simp only [ih]
    constructor
    · intro h suffix hs htwo
      rcases List.suffix_cons_iff.mp hs with rfl | hs
      · exact hf
      · exact h suffix hs htwo
    · exact fun h suffix hs => h suffix (hs.trans (List.suffix_cons a _))

theorem LongestSuffix.length_le {find : List α → Option β} {l suffix : List α}
    (h : LongestSuffix find l suffix) : 2 ≤ l.length :=
  h.two.trans h.suffix.length_le

theorem longestSuffix_cons {find : List α → Option β} {a : α} {l suffix : List α}
    (hf : find (a :: l) = none) (hs : suffix ≠ a :: l) :
    LongestSuffix find (a :: l) suffix ↔ LongestSuffix find l suffix := by
  constructor
  · intro h
    refine ⟨(List.suffix_cons_iff.mp h.suffix).resolve_left hs, h.two, fun other ho hlt => ?_⟩
    exact h.longest other (ho.trans (List.suffix_cons a l)) hlt
  · intro h
    refine ⟨h.suffix.trans (List.suffix_cons a l), h.two, fun other ho hlt => ?_⟩
    rcases List.suffix_cons_iff.mp ho with rfl | ho
    · exact hf
    · exact h.longest other ho hlt

theorem suffixWalk_some_iff {find : List α → Option β} {l : List α} {found : β} :
    suffixWalk find l = some found ↔
      ∃ suffix, LongestSuffix find l suffix ∧ find suffix = some found := by
  induction l using suffixWalk.induct find with
  | case1 =>
    simp only [suffixWalk, reduceCtorEq, false_iff]
    rintro ⟨suffix, h, -⟩
    exact absurd h.length_le (by simp)
  | case2 a =>
    simp only [suffixWalk, reduceCtorEq, false_iff]
    rintro ⟨suffix, h, -⟩
    exact absurd h.length_le (by simp)
  | case3 a b l found' hf =>
    rw [suffixWalk, hf]
    simp only [Option.some.injEq]
    constructor
    · rintro rfl
      refine ⟨a :: b :: l, ⟨List.suffix_refl _, by simp, fun other ho hlt => ?_⟩, hf⟩
      exact absurd ho.length_le (by omega)
    · rintro ⟨suffix, h, hs⟩
      have heq : suffix = a :: b :: l := by
        refine h.suffix.eq_of_length_le ?_
        by_contra hlt
        have hn := h.longest _ (List.suffix_refl _) (by omega)
        rw [hf] at hn
        cases hn
      rw [heq, hf] at hs
      exact Option.some.inj hs
  | case4 a b l hf ih =>
    rw [suffixWalk, hf]
    simp only [ih]
    refine exists_congr fun suffix => and_congr_left fun hs => ?_
    refine (longestSuffix_cons hf ?_).symm
    rintro rfl
    rw [hf] at hs
    cases hs

theorem eq_suffixWalk {find walk : List α → Option β} (hnil : walk [] = none)
    (hone : ∀ a, walk [a] = none)
    (hcons : ∀ a b l, walk (a :: b :: l) = (find (a :: b :: l)).or (walk (b :: l))) (l : List α) :
    walk l = suffixWalk find l := by
  induction l using suffixWalk.induct find with
  | case1 => exact hnil
  | case2 a => exact hone a
  | case3 a b l found hf => rw [hcons, suffixWalk, hf, Option.some_or]
  | case4 a b l hf ih => rw [hcons, suffixWalk, hf, Option.none_or, ih]

theorem suffixWalk_map (find : List α → Option β) (f : β → γ) (l : List α) :
    suffixWalk (fun suffix => (find suffix).map f) l = (suffixWalk find l).map f := by
  induction l using suffixWalk.induct find with
  | case1 => rfl
  | case2 a => rfl
  | case3 a b l found hf => rw [suffixWalk, suffixWalk, hf]; rfl
  | case4 a b l hf ih => rw [suffixWalk, suffixWalk, hf]; exact ih

end VibeDPN
