import Mathlib

namespace VibeDPN

open Relation

inductive Prog (State Cmd : Type) where
  | done
  | exec (cmd : Cmd) (rest : Prog State Cmd)
  | read (rest : State → Prog State Cmd)

structure Machine (State Cmd : Type) where
  state : State
  pending : Prog State Cmd

namespace Prog

variable {State Cmd : Type}

def commands : List Cmd → Prog State Cmd → Prog State Cmd
  | [], rest => rest
  | cmd :: cmds, rest => exec cmd (commands cmds rest)

section

variable (step : Cmd → State → Option State) (env : State → State → Prop)

-- a call starts only when the one before it returned or raised; cut is the call raising
inductive Move (calls : Prog State Cmd → Prop) : Machine State Cmd → Machine State Cmd → Prop
  | call (s : State) (p : Prog State Cmd) : calls p → Move calls ⟨s, done⟩ ⟨s, p⟩
  | exec (s t : State) (cmd : Cmd) (p : Prog State Cmd) :
      step cmd s = some t → Move calls ⟨s, exec cmd p⟩ ⟨t, p⟩
  | read (s : State) (p : State → Prog State Cmd) : Move calls ⟨s, read p⟩ ⟨s, p s⟩
  | env (s t : State) (p : Prog State Cmd) : env s t → Move calls ⟨s, p⟩ ⟨t, p⟩
  | cut (s : State) (p : Prog State Cmd) : Move calls ⟨s, p⟩ ⟨s, done⟩

def run : Prog State Cmd → State → State
  | done, s => s
  | exec cmd p, s =>
    match step cmd s with
    | some t => run p t
    | none => s
  | read p, s => run (p s) s

theorem reaches_run (calls : Prog State Cmd → Prop) (p : Prog State Cmd) (s : State) :
    ReflTransGen (Move step env calls) ⟨s, p⟩ ⟨run step p s, done⟩ := by
  induction p generalizing s with
  | done => exact .refl
  | exec cmd p ih =>
    rw [run]
    cases h : step cmd s with
    | none => exact .single (.cut s _)
    | some t => exact .head (.exec s t cmd p h) (ih t)
  | read p ih => exact .head (.read s p) (ih s s)

def Stable (P : State → Prop) : Prop := ∀ s t, P s → env s t → P t

def Safe (inv : State → Prop) : Prog State Cmd → State → Prop
  | done, s => ∀ t, ReflTransGen env s t → inv t
  | exec cmd p, s => ∀ t, ReflTransGen env s t →
      inv t ∧ ∀ u, step cmd t = some u → Safe inv p u
  | read p, s => ∀ t, ReflTransGen env s t → inv t ∧ Safe inv (p t) t

end

variable {step : Cmd → State → Option State} {env : State → State → Prop} {inv : State → Prop}
variable {P Q : State → Prop}

theorem Stable.many (hP : Stable env P) {s t : State} (h : P s) (hst : ReflTransGen env s t) :
    P t := by
  induction hst with
  | refl => exact h
  | tail _ hbc ih => exact hP _ _ ih hbc

namespace Safe

theorem holds {p : Prog State Cmd} {s : State} (h : Safe step env inv p s) : inv s := by
  cases p with
  | done => exact h s .refl
  | exec cmd p => exact (h s .refl).1
  | read p => exact (h s .refl).1

theorem after_env {p : Prog State Cmd} {s t : State} (h : Safe step env inv p s) (he : env s t) :
    Safe step env inv p t := by
  cases p with
  | done => exact fun u hu => h u (.head he hu)
  | exec cmd p => exact fun u hu => h u (.head he hu)
  | read p => exact fun u hu => h u (.head he hu)

theorem of_done (hs : Stable env inv) {s : State} (h : inv s) : Safe step env inv done s :=
  fun _ ht => hs.many h ht

theorem of_exec (hs : Stable env P) (hi : ∀ s, P s → inv s) {cmd : Cmd} {p : Prog State Cmd}
    (hp : ∀ s t, P s → step cmd s = some t → Safe step env inv p t) {s : State} (h : P s) :
    Safe step env inv (exec cmd p) s :=
  fun t ht => ⟨hi t (hs.many h ht), fun u hu => hp t u (hs.many h ht) hu⟩

theorem of_read (hs : Stable env P) (hi : ∀ s, P s → inv s) {p : State → Prog State Cmd}
    (hp : ∀ s, P s → Safe step env inv (p s) s) {s : State} (h : P s) :
    Safe step env inv (read p) s :=
  fun t ht => ⟨hi t (hs.many h ht), hp t (hs.many h ht)⟩

-- the precondition of a command list is indexed by the commands that are already done
theorem of_commands (pre : List Cmd → State → Prop) (hs : ∀ cmds, Stable env (pre cmds))
    (hi : ∀ cmds s, pre cmds s → inv s) {cmds : List Cmd}
    (hstep : ∀ before cmd after s t, cmds = before ++ cmd :: after → pre before s →
      step cmd s = some t → pre (before ++ [cmd]) t)
    {rest : Prog State Cmd} (hrest : ∀ s, pre cmds s → Safe step env inv rest s) {s : State}
    (h : pre [] s) : Safe step env inv (commands cmds rest) s := by
  have key : ∀ after before, cmds = before ++ after → ∀ s, pre before s →
      Safe step env inv (commands after rest) s := by
    intro after
    induction after with
    | nil =>
      intro before hb s hp
      rw [List.append_nil] at hb
      exact hrest s (hb ▸ hp)
    | cons cmd after ih =>
      intro before hb s hp
      refine of_exec (hs before) (hi before) (fun s t hps hst => ?_) hp
      exact ih (before ++ [cmd]) (by rw [hb]; simp) t (hstep before cmd after s t hb hps hst)
  exact key cmds [] rfl s h

theorem after_move {calls : Prog State Cmd → Prop} (hs : Stable env inv)
    (hc : ∀ p, calls p → ∀ s, inv s → Safe step env inv p s) {m n : Machine State Cmd}
    (hm : Safe step env inv m.pending m.state) (h : Move step env calls m n) :
    Safe step env inv n.pending n.state := by
  cases h with
  | call s p hp => exact hc p hp s hm.holds
  | exec s t cmd p hst => exact (hm s .refl).2 t hst
  | read s p => exact (hm s .refl).2
  | env s t p he => exact hm.after_env he
  | cut s p => exact of_done hs hm.holds

theorem reachable {calls : Prog State Cmd → Prop} (hs : Stable env inv)
    (hc : ∀ p, calls p → ∀ s, inv s → Safe step env inv p s) {s : State} (h : inv s)
    {m : Machine State Cmd} (hm : ReflTransGen (Move step env calls) ⟨s, done⟩ m) :
    inv m.state := by
  have hsafe : Safe step env inv m.pending m.state := by
    induction hm with
    | refl => exact of_done hs h
    | tail _ hbc ih => exact after_move hs hc ih hbc
  exact hsafe.holds

end Safe

end Prog

end VibeDPN
