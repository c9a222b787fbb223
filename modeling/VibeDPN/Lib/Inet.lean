import VibeDPN.Lib.Text

namespace VibeDPN.Inet

open Text

abbrev IPv4Address := BitVec 32

instance decidableMemAddresses (a : IPv4Address) (l : List IPv4Address) : Decidable (a ∈ l) :=
  inferInstance

def IPv4Address.octet (a : IPv4Address) (i : Nat) : Nat := a.toNat / 256 ^ i % 256

def IPv4Address.str (a : IPv4Address) : String :=
  join '.' [toString (octet a 3), toString (octet a 2), toString (octet a 1), toString (octet a 0)]

def isDigit (c : Char) : Bool := '0' ≤ c && c ≤ '9'

def digits (l : List Char) : Nat := l.foldl (fun n c => 10 * n + (c.toNat - 48)) 0

def parseOctet (s : String) : Option Nat :=
  let l := s.toList
  if l ≠ [] ∧ l.all isDigit ∧ l.length ≤ 3 ∧ (l = ['0'] ∨ l.head? ≠ some '0') ∧ digits l ≤ 255 then
    some (digits l)
  else none

def parseAddress (s : String) : Option IPv4Address :=
  match (split '.' s).map parseOctet with
  | [some a, some b, some c, some d] =>
      some (BitVec.ofNat 32 (((a * 256 + b) * 256 + c) * 256 + d))
  | _ => none

theorem parseOctet_str (n : Fin 256) :
    parseOctet (toString n.val) = some n.val ∧ ∀ c ∈ (toString n.val).toList, isDigit c = true := by
  have h : (List.finRange 256).all (fun n => parseOctet (toString n.val) = some n.val &&
      (toString n.val).toList.all isDigit) = true := by decide +kernel
  have hn := List.all_eq_true.mp h n (List.mem_finRange n)
  simpa using hn

theorem octet_lt (a : IPv4Address) (i : Nat) : a.octet i < 256 := Nat.mod_lt _ (by decide)

theorem parse_octet (a : IPv4Address) (i : Nat) :
    parseOctet (toString (a.octet i)) = some (a.octet i) :=
  (parseOctet_str ⟨a.octet i, octet_lt a i⟩).1

theorem octet_digits (a : IPv4Address) (i : Nat) :
    ∀ c ∈ (toString (a.octet i)).toList, isDigit c = true :=
  (parseOctet_str ⟨a.octet i, octet_lt a i⟩).2

theorem octets_value (a : IPv4Address) :
    ((a.octet 3 * 256 + a.octet 2) * 256 + a.octet 1) * 256 + a.octet 0 = a.toNat := by
  have h := a.isLt
  simp only [IPv4Address.octet]
  omega

theorem split_str (a : IPv4Address) :
    split '.' a.str = [toString (a.octet 3), toString (a.octet 2), toString (a.octet 1),
      toString (a.octet 0)] := by
  apply split_join (by simp)
  have hd : ∀ i, '.' ∉ (toString (a.octet i)).toList := fun i h => by
    simpa [isDigit] using octet_digits a i '.' h
  intro s hs
  simp only [List.mem_cons, List.not_mem_nil, or_false] at hs
  rcases hs with rfl | rfl | rfl | rfl
  · exact hd 3
  · exact hd 2
  · exact hd 1
  · exact hd 0

theorem parseAddress_str (a : IPv4Address) : parseAddress a.str = some a := by
  rw [parseAddress, split_str]
  simp only [List.map_cons, List.map_nil, parse_octet, octets_value]
  simp

theorem str_injective {a b : IPv4Address} (h : a.str = b.str) : a = b := by
  have hp : some a = some b := by rw [← parseAddress_str a, ← parseAddress_str b, h]
  exact Option.some.inj hp

structure IPv4Network where
  address : IPv4Address
  prefixlen : Nat
  prefix_le : prefixlen ≤ 32
  strict : address.toNat % 2 ^ (32 - prefixlen) = 0
deriving DecidableEq

theorem slash24_le : 24 ≤ 32 := by decide

def IPv4Network.str (n : IPv4Network) : String := n.address.str ++ "/" ++ toString n.prefixlen

def IPv4Network.contains (n : IPv4Network) (a : IPv4Address) : Bool :=
  a.toNat / 2 ^ (32 - n.prefixlen) = n.address.toNat / 2 ^ (32 - n.prefixlen)

def IPv4Network.numAddresses (n : IPv4Network) : Nat := 2 ^ (32 - n.prefixlen)

def IPv4Network.broadcast (n : IPv4Network) : IPv4Address :=
  n.address + BitVec.ofNat 32 (n.numAddresses - 1)

def prefixOfMask (mask : IPv4Address) : Option Nat :=
  ((List.range 33).find? (fun p => mask.toNat = 2 ^ 32 - 2 ^ (32 - p))).orElse fun _ =>
    (List.range 33).find? (fun p => mask.toNat = 2 ^ (32 - p) - 1)

def parsePrefix (s : String) : Option Nat :=
  let l := s.toList
  if l ≠ [] ∧ l.all isDigit ∧ digits l ≤ 32 then some (digits l)
  else (parseAddress s).bind prefixOfMask

def makeNetwork (a : IPv4Address) (p : Nat) : Option IPv4Network :=
  if h : p ≤ 32 ∧ a.toNat % 2 ^ (32 - p) = 0 then some ⟨a, p, h.1, h.2⟩ else none

def parseNetwork (s : String) : Option IPv4Network :=
  match split '/' s with
  | [a] => (parseAddress a).bind fun address => makeNetwork address 32
  | [a, m] => (parseAddress a).bind fun address => (parsePrefix m).bind (makeNetwork address)
  | _ => none

theorem makeNetwork_self (n : IPv4Network) : makeNetwork n.address n.prefixlen = some n := by
  rw [makeNetwork, dif_pos ⟨n.prefix_le, n.strict⟩]

theorem parsePrefix_str (p : Fin 33) :
    parsePrefix (toString p.val) = some p.val ∧
      ∀ c ∈ (toString p.val).toList, isDigit c = true := by
  have h : (List.finRange 33).all (fun n => parsePrefix (toString n.val) = some n.val &&
      (toString n.val).toList.all isDigit) = true := by decide +kernel
  have hn := List.all_eq_true.mp h p (List.mem_finRange p)
  simpa using hn

theorem mem_str {a : IPv4Address} {c : Char} (h : c ∈ a.str.toList) : isDigit c = true ∨ c = '.' := by
  simp only [IPv4Address.str, join, String.toList_ofList, List.map_cons, List.map_nil,
    List.intercalate, List.intersperse, List.flatten_cons, List.flatten_nil, List.mem_append,
    List.mem_singleton, List.append_nil] at h
  rcases h with h | h | h | h | h | h | h
  · exact .inl (octet_digits a 3 c h)
  · exact .inr h
  · exact .inl (octet_digits a 2 c h)
  · exact .inr h
  · exact .inl (octet_digits a 1 c h)
  · exact .inr h
  · exact .inl (octet_digits a 0 c h)

theorem split_network_str (n : IPv4Network) :
    split '/' n.str = [n.address.str, toString n.prefixlen] := by
  have hj : n.str = join '/' [n.address.str, toString n.prefixlen] := by
    rw [← String.toList_inj]
    simp [IPv4Network.str, join, List.intercalate, List.intersperse]
  rw [hj]
  apply split_join (by simp)
  intro s hs hc
  rcases List.mem_pair.mp hs with rfl | rfl
  · rcases mem_str hc with h | h
    · simp [isDigit] at h
    · simp at h
  · have := (parsePrefix_str ⟨n.prefixlen, by have := n.prefix_le; omega⟩).2 '/' hc
    simp [isDigit] at this

theorem parseNetwork_str (n : IPv4Network) : parseNetwork n.str = some n := by
  have hp := (parsePrefix_str ⟨n.prefixlen, by have := n.prefix_le; omega⟩).1
  rw [parseNetwork, split_network_str]
  simp only [parseAddress_str, Option.bind_some]
  simp only [hp, Option.bind_some, makeNetwork_self]

theorem network_str_injective {m n : IPv4Network} (h : m.str = n.str) : m = n := by
  have hp : some m = some n := by rw [← parseNetwork_str m, ← parseNetwork_str n, h]
  exact Option.some.inj hp

end VibeDPN.Inet
