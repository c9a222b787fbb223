import Mathlib

namespace VibeDPN.Keyed

variable {α β : Type*} {decode : α → Option β} {l : List α} {m : List β}

theorem mapM_cons_some {a : α} :
    (a :: l).mapM decode = some m ↔
      ∃ b m', decode a = some b ∧ l.mapM decode = some m' ∧ m = b :: m' := by
  rw [List.mapM_cons]
  cases decode a with
  | none => simp
  | some b =>
    cases l.mapM decode with
    | none => simp
    | some m' => simp [eq_comm]

theorem mapM_cons_of_some {a : α} {b : β} (h : decode a = some b) (l : List α) :
    (a :: l).mapM decode = (l.mapM decode).map (b :: ·) := by
  rw [List.mapM_cons, h]
  cases l.mapM decode <;> rfl

end VibeDPN.Keyed
