import Mathlib

namespace VibeDPN

variable {Name Elem : Type}

-- named sets of elements, each with the moment it expires
abbrev TimedSets (Name Elem : Type) := Name → Elem → Option Rat

inductive ElementCommand (Name Elem : Type) where
  | add (set : Name) (elements : List Elem) (timeout : Nat)
  | delete (set : Name) (elements : List Elem)

namespace TimedSets

def alive (sets : TimedSets Name Elem) (now : Rat) (set : Name) (a : Elem) : Bool :=
  match sets set a with
  | some expires => now < expires
  | none => false

theorem alive_iff {sets : TimedSets Name Elem} {now : Rat} {set : Name} {a : Elem} :
    sets.alive now set a = true ↔ ∃ expires, sets set a = some expires ∧ now < expires := by
  rw [alive]
  cases sets set a <;> simp

variable [DecidableEq Name] [DecidableEq Elem]

-- an element that is there keeps its timeout when it is added again
def add (sets : TimedSets Name Elem) (now : Rat) (set : Name) (elements : List Elem)
    (timeout : Nat) : TimedSets Name Elem :=
  fun s a =>
    if s = set ∧ a ∈ elements ∧ sets.alive now s a = false then some (now + timeout) else sets s a

def delete (sets : TimedSets Name Elem) (set : Name) (elements : List Elem) :
    TimedSets Name Elem :=
  fun s a => if s = set ∧ a ∈ elements then none else sets s a

def exec (now : Rat) : ElementCommand Name Elem → TimedSets Name Elem → Option (TimedSets Name Elem)
  | .add set elements timeout, sets => some (sets.add now set elements timeout)
  | .delete set elements, sets =>
    if elements.all (fun a => sets.alive now set a) then some (sets.delete set elements) else none

-- one transaction: every command or none
def transaction (now : Rat) (cmds : List (ElementCommand Name Elem)) (sets : TimedSets Name Elem) :
    Option (TimedSets Name Elem) :=
  cmds.foldlM (fun sets cmd => exec now cmd sets) sets

def fillScript (set : Name) (elements : List Elem) (timeout : Nat) :
    List (ElementCommand Name Elem) :=
  [.add set elements timeout, .delete set elements, .add set elements timeout]

def fill (sets : TimedSets Name Elem) (now : Rat) (set : Name) (elements : List Elem)
    (timeout : Nat) : TimedSets Name Elem :=
  fun s a => if s = set ∧ a ∈ elements then some (now + timeout) else sets s a

theorem alive_add {sets : TimedSets Name Elem} {now : Rat} {set : Name} {elements : List Elem}
    {timeout : Nat} (ht : 0 < timeout) {a : Elem} (ha : a ∈ elements) :
    (sets.add now set elements timeout).alive now set a = true := by
  rw [alive_iff, add]
  by_cases hal : sets.alive now set a = true
  · obtain ⟨expires, he, hn⟩ := alive_iff.mp hal
    exact ⟨expires, by simp [hal, he], hn⟩
  · have h0 : (0 : Rat) < timeout := by exact_mod_cast ht
    exact ⟨now + timeout, by simp [hal, ha], by linarith⟩

theorem transaction_fillScript {sets : TimedSets Name Elem} {now : Rat} {set : Name}
    {elements : List Elem} {timeout : Nat} (ht : 0 < timeout) :
    transaction now (fillScript set elements timeout) sets =
      some (sets.fill now set elements timeout) := by
  have hall : elements.all (fun a => (sets.add now set elements timeout).alive now set a) = true :=
    List.all_eq_true.mpr fun a ha => alive_add ht ha
  have hdel : ∀ s a, s = set ∧ a ∈ elements →
      ((sets.add now set elements timeout).delete set elements).alive now s a = false := by
    rintro s a h
    simp [alive, delete, h]
  simp only [transaction, fillScript, List.foldlM_cons, List.foldlM_nil, exec, hall, if_true,
    Option.bind_eq_bind, Option.bind_some, Option.pure_def, Option.some.injEq]
  funext s a
  by_cases h : s = set ∧ a ∈ elements
  · rw [add, if_pos ⟨h.1, h.2, hdel s a h⟩, fill, if_pos h]
  · have h3 : ¬(s = set ∧ a ∈ elements ∧
        ((sets.add now set elements timeout).delete set elements).alive now s a = false) :=
      fun h' => h ⟨h'.1, h'.2.1⟩
    have h1 : ¬(s = set ∧ a ∈ elements ∧ sets.alive now s a = false) := fun h' => h ⟨h'.1, h'.2.1⟩
    rw [add, if_neg h3, delete, if_neg h, add, if_neg h1, fill, if_neg h]

theorem fill_of_mem {sets : TimedSets Name Elem} {now : Rat} {set : Name} {elements : List Elem}
    {timeout : Nat} {a : Elem} (ha : a ∈ elements) :
    sets.fill now set elements timeout set a = some (now + timeout) := by
  simp [fill, ha]

theorem fill_of_not {sets : TimedSets Name Elem} {now : Rat} {set s : Name} {elements : List Elem}
    {timeout : Nat} {a : Elem} (h : ¬(s = set ∧ a ∈ elements)) :
    sets.fill now set elements timeout s a = sets s a := by
  rw [fill, if_neg h]

theorem alive_fill {sets : TimedSets Name Elem} {now : Rat} {set : Name} {elements : List Elem}
    {timeout : Nat} (ht : 0 < timeout) {a : Elem} (ha : a ∈ elements) :
    (sets.fill now set elements timeout).alive now set a = true := by
  have h0 : (0 : Rat) < timeout := by exact_mod_cast ht
  exact alive_iff.mpr ⟨now + timeout, fill_of_mem ha, by linarith⟩

theorem alive_fill_of_alive {sets : TimedSets Name Elem} {now : Rat} {set s : Name}
    {elements : List Elem} {timeout : Nat} (ht : 0 < timeout) {a : Elem}
    (h : sets.alive now s a = true) : (sets.fill now set elements timeout).alive now s a = true := by
  by_cases hm : s = set ∧ a ∈ elements
  · obtain ⟨rfl, ha⟩ := hm
    exact alive_fill ht ha
  · obtain ⟨expires, he, hn⟩ := alive_iff.mp h
    exact alive_iff.mpr ⟨expires, by rw [fill_of_not hm, he], hn⟩

end TimedSets

end VibeDPN
