import Mathlib

namespace VibeDPN

-- a program that asks its partner and goes on with what was answered
inductive Dialogue (Request Answer Value : Type) where
  | done (value : Value)
  | ask (request : Request) (next : Answer → Dialogue Request Answer Value)

namespace Dialogue

variable {Request Answer Value Next : Type}

def bind : Dialogue Request Answer Value → (Value → Dialogue Request Answer Next) →
    Dialogue Request Answer Next
  | .done value, f => f value
  | .ask request next, f => .ask request fun answer => (next answer).bind f

-- an answer may turn on everything that has passed
def run (partner : List (Request × Answer) → Request → Answer) :
    Dialogue Request Answer Value → List (Request × Answer) → List (Request × Answer) × Value
  | .done value, _ => ([], value)
  | .ask request next, past =>
    let answer := partner past request
    let rest := (next answer).run partner (past ++ [(request, answer)])
    ((request, answer) :: rest.1, rest.2)

inductive Passes : Dialogue Request Answer Value → List (Request × Answer) → Value → Prop
  | done (value : Value) : Passes (.done value) [] value
  | ask {request : Request} {answer : Answer} {next : Answer → Dialogue Request Answer Value}
      {trace : List (Request × Answer)} {value : Value} : Passes (next answer) trace value →
      Passes (.ask request next) ((request, answer) :: trace) value

theorem run_passes (partner : List (Request × Answer) → Request → Answer)
    (d : Dialogue Request Answer Value) (past : List (Request × Answer)) :
    d.Passes (d.run partner past).1 (d.run partner past).2 := by
  induction d generalizing past with
  | done value => exact .done value
  | ask request next ih => exact .ask (ih _ _)

theorem run_bind (partner : List (Request × Answer) → Request → Answer)
    (d : Dialogue Request Answer Value) (f : Value → Dialogue Request Answer Next)
    (past : List (Request × Answer)) :
    (d.bind f).run partner past =
      ((d.run partner past).1 ++
          ((f (d.run partner past).2).run partner (past ++ (d.run partner past).1)).1,
        ((f (d.run partner past).2).run partner (past ++ (d.run partner past).1)).2) := by
  induction d generalizing past with
  | done value => simp [bind, run]
  | ask request next ih => simp [bind, run, ih, List.append_assoc]

theorem passes_done {v value : Value} {trace : List (Request × Answer)} :
    (done v : Dialogue Request Answer Value).Passes trace value ↔ trace = [] ∧ v = value := by
  constructor
  · rintro ⟨⟩
    exact ⟨rfl, rfl⟩
  · rintro ⟨rfl, rfl⟩
    exact .done v

theorem passes_ask {request : Request} {next : Answer → Dialogue Request Answer Value}
    {trace : List (Request × Answer)} {value : Value} :
    (ask request next).Passes trace value ↔
      ∃ answer rest, trace = (request, answer) :: rest ∧ (next answer).Passes rest value := by
  constructor
  · rintro (_ | h)
    exact ⟨_, _, rfl, h⟩
  · rintro ⟨answer, rest, rfl, h⟩
    exact .ask h

theorem passes_bind {d : Dialogue Request Answer Value} {f : Value → Dialogue Request Answer Next}
    {trace : List (Request × Answer)} {result : Next} :
    (d.bind f).Passes trace result ↔
      ∃ first value rest, trace = first ++ rest ∧ d.Passes first value ∧ (f value).Passes rest result := by
  induction d generalizing trace with
  | done v =>
    constructor
    · exact fun h => ⟨[], v, trace, rfl, .done v, h⟩
    · rintro ⟨first, value, rest, rfl, hd, h⟩
      obtain ⟨rfl, rfl⟩ := passes_done.mp hd
      exact h
  | ask request next ih =>
    rw [bind, passes_ask]
    constructor
    · rintro ⟨answer, trace', rfl, h⟩
      obtain ⟨first, value, rest, rfl, hd, hf⟩ := (ih answer).mp h
      exact ⟨_, value, rest, rfl, .ask hd, hf⟩
    · rintro ⟨first, value, rest, rfl, hd, hf⟩
      obtain ⟨answer, first', rfl, hnext⟩ := passes_ask.mp hd
      exact ⟨answer, first' ++ rest, rfl, (ih answer).mpr ⟨first', value, rest, rfl, hnext, hf⟩⟩

end Dialogue

end VibeDPN
