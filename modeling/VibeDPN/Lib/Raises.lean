import Mathlib

namespace VibeDPN

variable {Err Value Next : Type} {p : Err → Prop} {q : Next → Prop}

def Raises (p : Err → Prop) (x : Except Err Value) : Prop := ∃ e, x = .error e ∧ p e

def Returns (q : Value → Prop) (x : Except Err Value) : Prop := ∃ v, x = .ok v ∧ q v

@[simp] theorem raises_ok (v : Value) : Raises p (.ok v) ↔ False := by
  simp [Raises]

@[simp] theorem raises_error (e : Err) : Raises p (.error e : Except Err Value) ↔ p e := by
  simp [Raises]

@[simp] theorem returns_ok {q : Value → Prop} (v : Value) :
    Returns q (.ok v : Except Err Value) ↔ q v := by
  simp [Returns]

@[simp] theorem returns_error {q : Value → Prop} (e : Err) : Returns q (.error e) ↔ False := by
  simp [Returns]

@[simp] theorem raises_pure (v : Value) : Raises p (pure v) ↔ False := raises_ok v

@[simp] theorem returns_pure {q : Value → Prop} (v : Value) :
    Returns q (pure v : Except Err Value) ↔ q v := returns_ok v

@[simp] theorem raises_bind (x : Except Err Value) (f : Value → Except Err Next) :
    Raises p (x >>= f) ↔ Raises p x ∨ Returns (fun v => Raises p (f v)) x := by
  cases x with
  | error e =>
    change Raises p (.error e) ↔ _
    simp
  | ok v =>
    change Raises p (f v) ↔ _
    simp

@[simp] theorem returns_bind (x : Except Err Value) (f : Value → Except Err Next) :
    Returns q (x >>= f) ↔ Returns (fun v => Returns q (f v)) x := by
  cases x with
  | error e =>
    change Returns q (.error e) ↔ _
    simp
  | ok v =>
    change Returns q (f v) ↔ _
    simp

@[simp] theorem returns_false (x : Except Err Value) : Returns (fun _ => False) x ↔ False := by
  simp [Returns]

theorem raises_ite {c : Prop} [Decidable c] (x y : Except Err Value) :
    Raises p (if c then x else y) ↔ c ∧ Raises p x ∨ ¬ c ∧ Raises p y := by
  split
  · rename_i h
    simp [h]
  · rename_i h
    simp [h]

theorem returns_ite {c : Prop} [Decidable c] {q : Value → Prop} (x y : Except Err Value) :
    Returns q (if c then x else y) ↔ c ∧ Returns q x ∨ ¬ c ∧ Returns q y := by
  split
  · rename_i h
    simp [h]
  · rename_i h
    simp [h]

end VibeDPN
