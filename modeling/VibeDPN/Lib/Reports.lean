import Mathlib

namespace VibeDPN

variable {Item Key : Type*}

def Homed (key : Item → Key) (home : Key → Nat) : Nat → List (List Item) → Prop
  | _, [] => True
  | n, part :: parts => (∀ a ∈ part, home (key a) = n) ∧ Homed key home (n + 1) parts

theorem Homed.le {key : Item → Key} {home : Key → Nat} {parts : List (List Item)} {n : Nat}
    (h : Homed key home n parts) : ∀ a ∈ parts.flatten, n ≤ home (key a) := by
  induction parts generalizing n with
  | nil => simp
  | cons part parts ih =>
    intro a ha
    rw [List.flatten_cons, List.mem_append] at ha
    rcases ha with ha | ha
    · exact (h.1 a ha).ge
    · exact Nat.le_of_succ_le (ih h.2 a ha)

variable [DecidableEq Key]

-- two reports agree: an item and its namesake of the other report, counted in order, are related
def Agree (key : Item → Key) (R : Item → Item → Prop) (l m : List Item) : Prop :=
  ∀ (k : Key) (i : Nat), ∀ a ∈ (l.filter (key · = k))[i]?, ∀ b ∈ (m.filter (key · = k))[i]?, R a b

namespace Agree

variable {key : Item → Key} {R : Item → Item → Prop} {l m l' m' : List Item}

theorem refl (h : ∀ a, R a a) : Agree key R l l := by
  intro k i a ha b hb
  obtain rfl : a = b := Option.mem_unique ha hb
  exact h a

end Agree

namespace Homed

variable {key : Item → Key} {home : Key → Nat} {R : Item → Item → Prop}

end Homed

end VibeDPN
