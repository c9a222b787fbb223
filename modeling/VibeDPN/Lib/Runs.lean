import Mathlib

namespace VibeDPN

variable {State Event : Type*}

-- the states of the runs whose every step meets the guard
inductive Guarded (step : State → Event → State) (guard : State → Event → Prop) (init : State) :
    State → Prop
  | start : Guarded step guard init init
  | next {s : State} (e : Event) : Guarded step guard init s → guard s e →
      Guarded step guard init (step s e)

namespace Guarded

variable {step : State → Event → State} {guard : State → Event → Prop} {init s : State}

theorem invariant (inv : State → Prop) (h0 : inv init)
    (hstep : ∀ s e, inv s → guard s e → inv (step s e)) (h : Guarded step guard init s) : inv s := by
  induction h with
  | start => exact h0
  | next e _ hg ih => exact hstep _ e ih hg

end Guarded

-- what holds of each step of a history, in the state it is taken in
def EachStep (step : State → Event → State) (P : State → Event → Prop) : State → List Event → Prop
  | _, [] => True
  | s, e :: events => P s e ∧ EachStep step P (step s e) events

namespace EachStep

variable {step : State → Event → State} {P Q : State → Event → Prop}

instance decidable [∀ s e, Decidable (P s e)] (s : State) :
    (events : List Event) → Decidable (EachStep step P s events)
  | [] => inferInstanceAs (Decidable True)
  | e :: events =>
    have := decidable (step s e) events
    inferInstanceAs (Decidable (P s e ∧ EachStep step P (step s e) events))

theorem iff_of_mem {inv : State → Prop} (events : List Event)
    (hiff : ∀ s, ∀ e ∈ events, inv s → (P s e ↔ Q s e))
    (hstep : ∀ s, ∀ e ∈ events, inv s → Q s e → inv (step s e)) {s : State} (hs : inv s) :
    EachStep step P s events ↔ EachStep step Q s events := by
  induction events generalizing s with
  | nil => exact Iff.rfl
  | cons e events ih =>
    simp only [EachStep]
    rw [hiff s e List.mem_cons_self hs]
    refine and_congr_right fun hq => ?_
    exact ih (fun s x hx => hiff s x (by simp [hx])) (fun s x hx => hstep s x (by simp [hx]))
      (hstep s e List.mem_cons_self hs hq)

theorem iff_of_invariant {inv : State → Prop} (hiff : ∀ s e, inv s → (P s e ↔ Q s e))
    (hstep : ∀ s e, inv s → Q s e → inv (step s e)) (events : List Event) {s : State}
    (hs : inv s) : EachStep step P s events ↔ EachStep step Q s events :=
  iff_of_mem events (fun s e _ => hiff s e) (fun s e _ => hstep s e) hs

theorem invariant {inv : State → Prop} {events : List Event} {s : State}
    (hstep : ∀ s, ∀ e ∈ events, inv s → P s e → inv (step s e)) (hs : inv s)
    (h : EachStep step P s events) : inv (events.foldl step s) := by
  induction events generalizing s with
  | nil => exact hs
  | cons e events ih =>
    exact ih (fun s x hx => hstep s x (by simp [hx])) (hstep s e (by simp) hs h.1) h.2

end EachStep

theorem bind_ok {Value Next Err : Type} {x : Except Err Value} {f : Value → Except Err Next}
    {b : Next} (h : (x >>= f) = .ok b) : ∃ a, x = .ok a ∧ f a = .ok b := by
  cases x with
  | error e => cases h
  | ok a => exact ⟨a, rfl, h⟩

theorem mapM_forall₂ {Item Value Err : Type} {f : Item → Except Err Value} {items : List Item}
    {values : List Value} (h : items.mapM f = .ok values) :
    List.Forall₂ (fun a b => f a = .ok b) items values := by
  induction items generalizing values with
  | nil =>
    cases h
    exact .nil
  | cons a items ih =>
    rw [List.mapM_cons] at h
    cases ha : f a with
    | error e =>
      rw [ha] at h
      cases h
    | ok b =>
      cases hl : items.mapM f with
      | error e =>
        rw [ha, hl] at h
        cases h
      | ok bs =>
        rw [ha, hl] at h
        cases h
        exact .cons ha (ih hl)

theorem mapM_total {Item Value Err : Type} {f : Item → Except Err Value} {items : List Item}
    (h : ∀ a ∈ items, ∃ b, f a = .ok b) : ∃ values, items.mapM f = .ok values := by
  induction items with
  | nil => exact ⟨[], rfl⟩
  | cons a items ih =>
    obtain ⟨b, hb⟩ := h a (by simp)
    obtain ⟨values, hv⟩ := ih (fun x hx => h x (by simp [hx]))
    exact ⟨b :: values, by rw [List.mapM_cons, hb, hv]; rfl⟩

theorem mapM_map {Item Value Err κ : Type} {f : Item → Except Err Value} {g : Value → κ}
    {k : Item → κ} (hk : ∀ a b, f a = .ok b → g b = k a) {items : List Item}
    {values : List Value} (h : items.mapM f = .ok values) : values.map g = items.map k := by
  have hall := mapM_forall₂ h
  clear h
  induction hall with
  | nil => rfl
  | cons hab _ ih => rw [List.map_cons, List.map_cons, hk _ _ hab, ih]

theorem forall₂_mem_left {α β : Type} {R : α → β → Prop} {l : List α} {m : List β}
    (h : List.Forall₂ R l m) {a : α} (ha : a ∈ l) : ∃ b ∈ m, R a b := by
  induction h with
  | nil => simp at ha
  | cons hab _ ih =>
    rcases List.mem_cons.mp ha with rfl | ha
    · exact ⟨_, by simp, hab⟩
    · obtain ⟨b, hb, hr⟩ := ih ha
      exact ⟨b, by simp [hb], hr⟩

theorem mapM_ok {Item Value Err : Type} {f : Item → Except Err Value} {items : List Item}
    {values : List Value} (h : items.mapM f = .ok values) :
    ∀ b ∈ values, ∃ a ∈ items, f a = .ok b := fun _ hb =>
  forall₂_mem_left (mapM_forall₂ h).flip hb

-- a loop that may raise, leaving the state it had reached
theorem foldlM_invariant {State Item Err : Type} {f : State → Item → Except (State × Err) State}
    {P : State → Prop} (items : List Item)
    (hok : ∀ s, ∀ a ∈ items, P s → ∀ t, f s a = .ok t → P t)
    (herr : ∀ s, ∀ a ∈ items, P s → ∀ e, f s a = .error e → P e.1) {s : State} (h : P s) :
    (∀ t, items.foldlM f s = .ok t → P t) ∧ ∀ e, items.foldlM f s = .error e → P e.1 := by
  induction items generalizing s with
  | nil => exact ⟨fun t ht => by cases ht; exact h, fun e he => by cases he⟩
  | cons a items ih =>
    rw [List.foldlM_cons]
    cases hf : f s a with
    | ok t =>
      exact ih (fun s b hb => hok s b (by simp [hb])) (fun s b hb => herr s b (by simp [hb]))
        (hok s a (by simp) h t hf)
    | error e =>
      refine ⟨fun t ht => (by cases ht), fun e' he => ?_⟩
      cases he
      exact herr s a (by simp) h e hf

theorem foldlM_isOk {State Item Err : Type} {f : State → Item → Except (State × Err) State}
    {P : State → Prop} {Q : Item → Prop} (hkeep : ∀ s a t, P s → f s a = .ok t → P t)
    (hgood : ∀ s a, P s → ((∃ t, f s a = .ok t) ↔ Q a)) (items : List Item) {s : State}
    (h : P s) : (∃ t, items.foldlM f s = .ok t) ↔ ∀ a ∈ items, Q a := by
  induction items generalizing s with
  | nil => simp only [List.foldlM_nil, List.not_mem_nil, false_imp_iff, implies_true, iff_true]
           exact ⟨s, rfl⟩
  | cons a items ih =>
    rw [List.foldlM_cons, List.forall_mem_cons, ← hgood s a h]
    cases hf : f s a with
    | ok t =>
      have ht := ih (hkeep s a t h hf)
      simp only [Except.ok.injEq, exists_eq', true_and]
      exact ht
    | error e =>
      have hn : ¬ ∃ t, (Except.error e : Except (State × Err) State) = .ok t := by simp
      simp only [hn, false_and, iff_false]
      exact hn

end VibeDPN
