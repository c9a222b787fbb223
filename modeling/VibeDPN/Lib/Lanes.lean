import Mathlib
import VibeDPN.Lib.Runs

namespace VibeDPN

def lane {Item Key : Type} [DecidableEq Key] (keyOf : Item → Key) (k : Key) (l : List Item) :
    List Item :=
  l.filter (fun x => keyOf x = k)

theorem lane_cons_pos {Item Key : Type} [DecidableEq Key] {keyOf : Item → Key} {k : Key} {a : Item}
    (h : keyOf a = k) (l : List Item) : lane keyOf k (a :: l) = a :: lane keyOf k l :=
  List.filter_cons_of_pos (decide_eq_true h)

theorem lane_cons_neg {Item Key : Type} [DecidableEq Key] {keyOf : Item → Key} {k : Key} {a : Item}
    (h : keyOf a ≠ k) (l : List Item) : lane keyOf k (a :: l) = lane keyOf k l :=
  List.filter_cons_of_neg (by simpa using h)

theorem nodup_of_lanes {Item Key : Type} [DecidableEq Key] {keyOf : Item → Key} {l : List Item}
    (h : ∀ k, (lane keyOf k l).length ≤ 1) : (l.map keyOf).Nodup := by
  induction l with
  | nil => exact List.nodup_nil
  | cons a l ih =>
    rw [List.map_cons, List.nodup_cons]
    constructor
    · intro ha
      obtain ⟨b, hb, he⟩ := List.mem_map.mp ha
      have hlen := h (keyOf a)
      rw [lane_cons_pos rfl, List.length_cons] at hlen
      have hpos : 0 < (lane keyOf (keyOf a) l).length :=
        List.length_pos_of_mem (List.mem_filter.mpr ⟨hb, decide_eq_true he⟩)
      omega
    · refine ih (fun k => ?_)
      have hlen := h k
      by_cases hk : keyOf a = k
      · rw [lane_cons_pos hk, List.length_cons] at hlen
        omega
      · rwa [lane_cons_neg hk] at hlen

section

variable {Item : Type} {p f : Item → Bool}

theorem filter_eraseP_of_disjoint (h : ∀ x, p x = true → f x = false) (l : List Item) :
    (l.eraseP p).filter f = l.filter f := by
  induction l with
  | nil => rfl
  | cons a l ih =>
    cases hp : p a with
    | true => rw [List.eraseP_cons_of_pos hp, List.filter_cons_of_neg (by simp [h a hp])]
    | false =>
      rw [List.eraseP_cons_of_neg (by simp [hp]), List.filter_cons, List.filter_cons, ih]

theorem filter_eraseP_of_imp (h : ∀ x, p x = true → f x = true) (l : List Item) :
    (l.eraseP p).filter f = (l.filter f).eraseP p := by
  rw [List.eraseP_filter]
  congr 2
  funext x
  cases hp : p x with
  | true => simp [h x hp]
  | false => rfl

end

section

variable {Key Value : Type} [DecidableEq Key] {keyOf : Value → Key} {f : Key → List Value}

theorem lane_flatMap (hf : ∀ k, ∀ x ∈ f k, keyOf x = k) {keys : List Key} (hn : keys.Nodup)
    (k : Key) : lane keyOf k (keys.flatMap f) = if k ∈ keys then f k else [] := by
  induction keys with
  | nil => rfl
  | cons a keys ih =>
    obtain ⟨ha, hn⟩ := List.nodup_cons.mp hn
    have hrest := ih hn
    rw [lane] at hrest
    rw [lane, List.flatMap_cons, List.filter_append, hrest]
    by_cases hk : k = a
    · subst hk
      rw [if_neg ha, if_pos (by simp), List.append_nil, List.filter_eq_self]
      exact fun x hx => decide_eq_true (hf k x hx)
    · have hnone : (f a).filter (fun x => keyOf x = k) = [] := by
        rw [List.filter_eq_nil_iff]
        intro x hx he
        exact hk ((of_decide_eq_true he).symm.trans (hf a x hx))
      rw [hnone, List.nil_append]
      simp [hk]

end

section

variable {Item Op Key : Type} [DecidableEq Key] {keyOf : Item → Key} {laneOf : Op → Key}
  {hit : Op → Item → Bool}

def removals (hit : Op → Item → Bool) (ops : List Op) (l : List Item) : List Item :=
  ops.foldl (fun l op => l.eraseP (hit op)) l

def AllHit (hit : Op → Item → Bool) (l : List Item) (ops : List Op) : Prop :=
  EachStep (fun l op => l.eraseP (hit op)) (fun l op => l.any (hit op) = true) l ops

theorem removals_cons (op : Op) (ops : List Op) (l : List Item) :
    removals hit (op :: ops) l = removals hit ops (l.eraseP (hit op)) := rfl

theorem allHit_cons {op : Op} {ops : List Op} {l : List Item} : AllHit hit l (op :: ops) ↔
    l.any (hit op) = true ∧ AllHit hit (l.eraseP (hit op)) ops := Iff.rfl

theorem removals_append (ops ops' : List Op) (l : List Item) :
    removals hit (ops ++ ops') l = removals hit ops' (removals hit ops l) :=
  List.foldl_append

theorem allHit_append {ops ops' : List Op} {l : List Item} : AllHit hit l (ops ++ ops') ↔
    AllHit hit l ops ∧ AllHit hit (removals hit ops l) ops' := by
  induction ops generalizing l with
  | nil => exact ⟨fun h => ⟨trivial, h⟩, fun h => h.2⟩
  | cons op ops ih =>
    rw [List.cons_append, allHit_cons, allHit_cons, ih, removals_cons, and_assoc]

theorem lane_eraseP (hk : ∀ op x, hit op x = true → keyOf x = laneOf op) (op : Op) (k : Key)
    (l : List Item) : lane keyOf k (l.eraseP (hit op)) =
      if laneOf op = k then (lane keyOf k l).eraseP (hit op) else lane keyOf k l := by
  split
  · rename_i he
    exact filter_eraseP_of_imp (fun x hx => decide_eq_true ((hk op x hx).trans he)) l
  · rename_i he
    exact filter_eraseP_of_disjoint
      (fun x hx => decide_eq_false (fun hx' => he ((hk op x hx).symm.trans hx'))) l

theorem lane_removals (hk : ∀ op x, hit op x = true → keyOf x = laneOf op) (k : Key)
    (ops : List Op) (l : List Item) : lane keyOf k (removals hit ops l) =
      removals hit (lane laneOf k ops) (lane keyOf k l) := by
  induction ops generalizing l with
  | nil => rfl
  | cons op ops ih =>
    rw [removals_cons, ih, lane_eraseP hk]
    split
    · rename_i he
      rw [lane_cons_pos he, removals_cons]
    · rename_i he
      rw [lane_cons_neg he]

theorem allHit_of_lanes (hk : ∀ op x, hit op x = true → keyOf x = laneOf op) {ops : List Op}
    {l : List Item} (h : ∀ k, AllHit hit (lane keyOf k l) (lane laneOf k ops)) :
    AllHit hit l ops := by
  induction ops generalizing l with
  | nil => trivial
  | cons op ops ih =>
    have hop := h (laneOf op)
    rw [lane_cons_pos rfl, allHit_cons] at hop
    obtain ⟨x, hx, hhit⟩ := List.any_eq_true.mp hop.1
    rw [allHit_cons]
    refine ⟨List.any_eq_true.mpr ⟨x, (List.mem_filter.mp hx).1, hhit⟩, ih (fun k => ?_)⟩
    rw [lane_eraseP hk]
    split
    · rename_i he
      subst he
      exact hop.2
    · rename_i he
      have hrest := h k
      rwa [lane_cons_neg he] at hrest

end

-- items taken away one after the other by what each of them looks like
section

variable {Item Op : Type} {hit : Op → Item → Bool} {look : Item → Op}

theorem removals_all (h : ∀ x, hit (look x) x = true) (l rest : List Item) :
    removals hit (l.map look) (l ++ rest) = rest := by
  induction l with
  | nil => rfl
  | cons a l ih =>
    rw [List.map_cons, List.cons_append, removals_cons, List.eraseP_cons_of_pos (h a), ih]

theorem allHit_all (h : ∀ x, hit (look x) x = true) (l rest : List Item) :
    AllHit hit (l ++ rest) (l.map look) := by
  induction l with
  | nil => trivial
  | cons a l ih =>
    rw [List.map_cons, allHit_cons]
    refine ⟨List.any_eq_true.mpr ⟨a, by simp, h a⟩, ?_⟩
    rw [List.cons_append, List.eraseP_cons_of_pos (h a)]
    exact ih

def survivor (hit : Op → Item → Bool) (look : Item → Op) : Item → List Item → Item
  | r, [] => r
  | r, a :: l => if hit (look a) r then survivor hit look a l else survivor hit look r l

theorem removals_survivor (h : ∀ x, hit (look x) x = true) (r : Item) (l : List Item) :
    removals hit (l.map look) (r :: l) = [survivor hit look r l] := by
  induction l generalizing r with
  | nil => rfl
  | cons a l ih =>
    rw [List.map_cons, removals_cons, survivor]
    split
    · rename_i hr
      rw [List.eraseP_cons_of_pos hr]
      exact ih a
    · rename_i hr
      rw [List.eraseP_cons_of_neg hr, List.eraseP_cons_of_pos (h a)]
      exact ih r

theorem allHit_survivor (h : ∀ x, hit (look x) x = true) (r : Item) (l : List Item) :
    AllHit hit (r :: l) (l.map look) := by
  induction l generalizing r with
  | nil => trivial
  | cons a l ih =>
    rw [List.map_cons, allHit_cons]
    refine ⟨List.any_eq_true.mpr ⟨a, by simp, h a⟩, ?_⟩
    by_cases hr : hit (look a) r = true
    · rw [List.eraseP_cons_of_pos hr]
      exact ih a
    · rw [List.eraseP_cons_of_neg hr, List.eraseP_cons_of_pos (h a)]
      exact ih r

end

end VibeDPN
