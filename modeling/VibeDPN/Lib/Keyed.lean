import VibeDPN.Lib.Decode

namespace VibeDPN.Keyed

variable {α β : Type*}

-- the first item that meets p is altered, or a new one goes to the end
def alterFirst (p : α → Bool) (f : α → α) (new : α) : List α → List α
  | [] => [new]
  | a :: l => if p a then f a :: l else a :: alterFirst p f new l

def alterFirstM (p : α → Bool) (f : α → Option α) (new : Option α) : List α → Option (List α)
  | [] => new.map (fun a => [a])
  | a :: l => if p a then (f a).map (· :: l) else (alterFirstM p f new l).map (a :: ·)

-- none: no item meets p
def dropFirst (p : α → Bool) : List α → Option (List α)
  | [] => none
  | a :: l => if p a then some l else (dropFirst p l).map (a :: ·)

section Decode

variable {decode : α → Option β} {p : α → Bool} {q : β → Bool} {l : List α} {m : List β}

theorem mem_of_mapM (hm : l.mapM decode = some m) {b : β} :
    b ∈ m ↔ ∃ a ∈ l, decode a = some b := by
  induction l generalizing m with
  | nil =>
    simp only [List.mapM_nil, Option.pure_def, Option.some.injEq] at hm
    simp [← hm]
  | cons a l ih =>
    obtain ⟨b', m', hb, hl, rfl⟩ := mapM_cons_some.mp hm
    simp [ih hl, hb, eq_comm]

end Decode

end VibeDPN.Keyed
