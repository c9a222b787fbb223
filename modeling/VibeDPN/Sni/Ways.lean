import VibeDPN.Lib.Raises
import VibeDPN.Sni.NameLists

namespace VibeDPN.Sni

open Bytes Inet

def Escaping (e : Fault) : Prop := e.caughtLast = false

def Ending (e : Fault) : Prop := e.caughtLast = true ∧ e.caughtAround = false

-- as long as read_hello lets a record be
def Short (hello : List UInt8) : Prop := hello.length ≤ recordHeader + maxHelloBytes

def CutInside (hello : List UInt8) (cut : Nat) : Prop := recordHeader < cut ∧ cut < hello.length

structure Target (address : String) (text : List Char) : Prop where
  read : text.length ≤ maxDigits
  whole : zeroByte address = false
  port : isLiteral address = true → digits text ≤ maxPort
  name : isLiteral address = false → Encodable address

def boundSize (kind : UInt8) (rest : List UInt8) : Option Nat :=
  if kind = socksIpv4 then some (4 + 2)
  else if kind = socksIpv6 then some (16 + 2)
  else if kind = socksByName then some (1 + ((rest.headD 0).toNat + 2))
  else none

def Replied (l : List UInt8) : Prop :=
  4 ≤ l.length ∧ (l.take 4).getD 1 0 = socksOk ∧
    ∃ n, boundSize ((l.take 4).getD 3 0) (l.drop 4) = some n ∧ n ≤ (l.drop 4).length

def ReplyCut (l : List UInt8) : Prop :=
  l.length < 4 ∨ 4 ≤ l.length ∧ (l.take 4).getD 1 0 = socksOk ∧
    ∃ n, boundSize ((l.take 4).getD 3 0) (l.drop 4) = some n ∧ (l.drop 4).length < n

def NetError.passing : NetError → Bool
  | .timeout | .connection _ => true
  | .os _ => false

namespace Attempt

variable (a : Attempt)

def Answers : Prop := a.sent = none ∧ ∃ b rest, a.answer = .ok (b :: rest)

def Connects (host : String) : Prop :=
  Encodable host ∧ (∃ info rest, a.infos = .ok (info :: rest)) ∧ a.connected = none

-- the plain way stops where the relay tries another
def Silent : Prop :=
  (∃ e, a.infos = .error e ∧ e.passing = true) ∨ a.infos = .ok [] ∨
    (∃ info rest, a.infos = .ok (info :: rest)) ∧
      ((∃ e, a.connected = some e ∧ e.passing = true) ∨ a.connected = none ∧
        ((∃ e, a.sent = some e ∧ e.passing = true) ∨ a.sent = none ∧
          ((∃ e, a.answer = .error e ∧ e.passing = true) ∨ a.answer = .ok [])))

def Takes (proxy : String) : Prop :=
  isAscii proxy = true ∧ (∃ address text, socksAddress proxy = .ok (address, text) ∧
      Target address text) ∨
    isAscii proxy = false ∧ a.foreign = none

def Misses (proxy : String) : Prop :=
  isAscii proxy = true ∧ (∃ address text, socksAddress proxy = .ok (address, text) ∧
      ¬ Target address text) ∨
    isAscii proxy = false ∧ ∃ f, a.foreign = some f ∧ f ≠ .digits

def Reaches (proxy : String) : Prop :=
  a.Takes proxy ∧ a.connected = none ∧ a.greeted = none

def Greets (proxy : String) : Prop :=
  a.Reaches proxy ∧ a.proxy.bytes.take 2 = [socksVersion, socksNoAuth]

def Asks (proxy host : String) : Prop :=
  a.Greets proxy ∧ Encodable host ∧ host.length ≤ 255 ∧ a.requested = none

def TorOpens (proxy host : String) : Prop :=
  a.Asks proxy host ∧ Replied (a.proxy.bytes.drop 2)

def TorEscapes (proxy host : String) : Prop :=
  a.Misses proxy ∨ a.Greets proxy ∧ (¬ Encodable host ∨ 255 < host.length)

-- the proxy closes in the middle of what it says
def TorEnds (proxy host : String) : Prop :=
  a.proxy.ending = none ∧
    (a.Reaches proxy ∧ a.proxy.bytes.length < 2 ∨
      a.Asks proxy host ∧ ReplyCut (a.proxy.bytes.drop 2))

end Attempt

variable {p : Fault → Prop}

theorem raises_raiseIf (c : Prop) [Decidable c] (e : Fault) : Raises p (raiseIf c e) ↔ c ∧ p e := by
  simp [raiseIf, raises_ite]

theorem returns_raiseIf {q : Unit → Prop} (c : Prop) [Decidable c] (e : Fault) :
    Returns q (raiseIf c e) ↔ ¬ c ∧ q () := by
  simp [raiseIf, returns_ite]

theorem raises_awaited (o : Option NetError) :
    Raises p (awaited o) ↔ ∃ e, o = some e ∧ p e.fault := by
  cases o <;> simp [awaited]

theorem returns_awaited {q : Unit → Prop} (o : Option NetError) :
    Returns q (awaited o) ↔ o = none ∧ q () := by
  cases o <;> simp [awaited]

theorem returns_readexactly {q : List UInt8 × Stream → Prop} (s : Stream) (n : Nat) :
    Returns q (s.readexactly n) ↔
      n ≤ s.bytes.length ∧ q (s.bytes.take n, ⟨s.bytes.drop n, s.ending⟩) := by
  rw [Stream.readexactly, returns_ite]
  cases s.ending <;> simp

theorem raises_readexactly (s : Stream) (n : Nat) :
    Raises p (s.readexactly n) ↔ s.bytes.length < n ∧
      (s.ending = none ∧ p (.incomplete s.bytes.length n) ∨
        ∃ e, s.ending = some e ∧ p e.fault) := by
  rw [Stream.readexactly, raises_ite]
  cases s.ending <;> simp

theorem raises_idna (host : String) : Raises p (idna host) ↔ ¬ Encodable host ∧ p .unicode := by
  simp [idna, raises_ite]

theorem returns_idna {q : List UInt8 → Prop} (host : String) :
    Returns q (idna host) ↔
      Encodable host ∧ q (host.toList.map fun c => UInt8.ofNat c.toNat) := by
  simp [idna, returns_ite]

theorem not_escaping_fault (e : NetError) : ¬ Escaping e.fault := by
  cases e <;> simp [Escaping, NetError.fault, Fault.caughtLast]

theorem not_ending_fault (e : NetError) : ¬ Ending e.fault := by
  cases e <;> simp [Ending, NetError.fault, Fault.caughtAround]

theorem raises_socksAddress (proxy : String) (hp : ∀ text, ¬ p (.relay text)) :
    ¬ Raises p (socksAddress proxy) := by
  rw [socksAddress]
  simp only [raises_ite, raises_ok, raises_error, notAddress, hp, and_false, or_self,
    not_false_eq_true]

theorem greeting_iff {l : List UInt8} {v w : UInt8} :
    2 ≤ l.length ∧ ¬ ((l.take 2).getD 0 0 ≠ v ∨ (l.take 2).getD 1 0 ≠ w) ↔ l.take 2 = [v, w] := by
  match l with
  | [] => simp
  | [_] => simp
  | _ :: _ :: _ => simp

theorem target_iff (address : String) (text : List Char) :
    Target address text ↔ ¬ (maxDigits < text.length ∨ zeroByte address = true) ∧
      ¬ (isLiteral address = true ∧ maxPort < digits text) ∧
      ¬ (isLiteral address = false ∧ ¬ Encodable address) := by
  constructor
  · rintro ⟨hr, hw, hp, hn⟩
    refine ⟨?_, fun h => absurd (hp h.1) (Nat.not_le.mpr h.2), fun h => h.2 (hn h.1)⟩
    simp [hw, hr]
  · rintro ⟨h, hp, hn⟩
    rw [not_or, Bool.not_eq_true, not_lt] at h
    exact ⟨h.1, h.2, fun hl => not_lt.mp fun hm => hp ⟨hl, hm⟩,
      fun hl => not_not.mp fun he => hn ⟨hl, he⟩⟩

theorem returns_reachTarget {q : Unit → Prop} (address : String) (text : List Char) :
    Returns q (reachTarget address text) ↔ Target address text ∧ q () := by
  rw [reachTarget, returns_bind, returns_raiseIf, returns_bind, returns_raiseIf,
    returns_raiseIf, target_iff, and_assoc, and_assoc]

theorem reachTarget_escapes (address : String) (text : List Char) :
    Raises Escaping (reachTarget address text) ↔ ¬ Target address text := by
  have hv : Escaping .value := rfl
  have ho : Escaping .overflow := rfl
  have hu : Escaping .unicode := rfl
  rw [reachTarget, target_iff]
  simp only [raises_bind, raises_raiseIf, returns_raiseIf, hv, ho, hu, and_true]
  tauto

theorem reachTarget_ends (address : String) (text : List Char) :
    ¬ Raises Ending (reachTarget address text) := by
  have hv : ¬ Ending .value := fun h => by cases h.1
  have ho : ¬ Ending .overflow := fun h => by cases h.1
  have hu : ¬ Ending .unicode := fun h => by cases h.1
  simp only [reachTarget, raises_bind, raises_raiseIf, returns_raiseIf, hv, ho, hu, and_false,
    or_self, not_false_eq_true]

theorem Foreign.escapes (proxy : String) (f : Foreign) :
    Escaping (f.fault proxy) ↔ f ≠ .digits := by
  cases f <;> simp [Foreign.fault, notAddress, Escaping, Fault.caughtLast]

theorem returns_proxyTarget {q : Unit → Prop} (proxy : String) (a : Attempt) :
    Returns q (proxyTarget proxy a.foreign) ↔ a.Takes proxy ∧ q () := by
  rw [proxyTarget, Attempt.Takes]
  cases isAscii proxy with
  | true =>
    rw [if_pos rfl, returns_bind]
    simp only [returns_reachTarget]
    rw [Returns, Prod.exists]
    simp [← and_assoc]
  | false => cases a.foreign <;> simp [foreignTarget]

theorem proxyTarget_escapes (proxy : String) (a : Attempt) :
    Raises Escaping (proxyTarget proxy a.foreign) ↔ a.Misses proxy := by
  have hs : ¬ Raises Escaping (socksAddress proxy) :=
    raises_socksAddress proxy (by simp [Escaping, Fault.caughtLast])
  rw [proxyTarget, Attempt.Misses]
  cases isAscii proxy with
  | true =>
    rw [if_pos rfl, raises_bind, or_iff_right hs]
    simp only [reachTarget_escapes]
    rw [Returns, Prod.exists]
    simp
  | false =>
    cases a.foreign with
    | none => simp [foreignTarget]
    | some f => simp [foreignTarget, Foreign.escapes]

theorem proxyTarget_ends (proxy : String) (a : Attempt) :
    ¬ Raises Ending (proxyTarget proxy a.foreign) := by
  have hs : ¬ Raises Ending (socksAddress proxy) :=
    raises_socksAddress proxy (by simp [Ending, Fault.caughtAround])
  rw [proxyTarget]
  cases isAscii proxy with
  | true =>
    rw [if_pos rfl, raises_bind, or_iff_right hs]
    simp only [reachTarget_ends, returns_false, not_false_eq_true]
  | false =>
    cases a.foreign with
    | none => simp [foreignTarget]
    | some f => cases f <;> simp [foreignTarget, Foreign.fault, notAddress, Ending, Fault.caughtAround,
        Fault.caughtLast]

theorem returns_greetProxy {q : Stream → Prop} (proxy : String) (a : Attempt) :
    Returns q (greetProxy proxy a) ↔
      a.Greets proxy ∧ q ⟨a.proxy.bytes.drop 2, a.proxy.ending⟩ := by
  simp only [greetProxy, returns_bind, returns_proxyTarget, returns_raiseIf, returns_awaited,
    returns_readexactly, returns_pure]
  constructor
  · rintro ⟨ht, hc, hg, hl, hn, hq⟩
    exact ⟨⟨⟨ht, hc, hg⟩, greeting_iff.mp ⟨hl, hn⟩⟩, hq⟩
  · rintro ⟨⟨⟨ht, hc, hg⟩, h⟩, hq⟩
    obtain ⟨hl, hn⟩ := greeting_iff.mpr h
    exact ⟨ht, hc, hg, hl, hn, hq⟩

theorem greetProxy_escapes (proxy : String) (a : Attempt) :
    Raises Escaping (greetProxy proxy a) ↔ a.Misses proxy := by
  simp only [greetProxy, raises_bind, raises_raiseIf, raises_awaited, returns_awaited,
    raises_readexactly, returns_readexactly, raises_pure, proxyTarget_escapes, returns_proxyTarget,
    not_escaping_fault, returns_false, and_false, exists_false, or_false, false_or]
  simp only [Escaping, Fault.caughtLast, and_false, or_false, Bool.true_eq_false]

theorem greetProxy_ends (proxy : String) (a : Attempt) :
    Raises Ending (greetProxy proxy a) ↔
      a.Reaches proxy ∧ a.proxy.bytes.length < 2 ∧ a.proxy.ending = none := by
  simp only [greetProxy, raises_bind, raises_raiseIf, raises_awaited, returns_awaited,
    raises_readexactly, returns_readexactly, raises_pure, proxyTarget_ends, returns_proxyTarget,
    not_ending_fault, returns_false, and_false, exists_false, or_false, false_or]
  simp only [Ending, Fault.caughtLast, Fault.caughtAround, and_true, and_false, or_false,
    Bool.true_eq_false, Attempt.Reaches, and_assoc]

theorem returns_readBound {q : Unit → Prop} (kind : UInt8) (reader : Stream) :
    Returns q (readBound kind reader) ↔
      (∃ n, boundSize kind reader.bytes = some n ∧ n ≤ reader.bytes.length) ∧ q () := by
  obtain ⟨bytes, ending⟩ := reader
  rw [readBound, boundSize]
  split
  · simp only [returns_bind, returns_readexactly, returns_pure, Option.some.injEq, exists_eq_left']
  · split
    · simp only [returns_bind, returns_readexactly, returns_pure, Option.some.injEq,
        exists_eq_left']
    · split
      · simp only [returns_bind, returns_readexactly, returns_pure, Option.some.injEq,
          exists_eq_left']
        cases bytes with
        | nil => simp
        | cons size rest => simp [← and_assoc, Nat.add_comm 1]
      · simp

theorem readBound_ends (kind : UInt8) (reader : Stream) :
    Raises Ending (readBound kind reader) ↔
      (∃ n, boundSize kind reader.bytes = some n ∧ reader.bytes.length < n) ∧
        reader.ending = none := by
  have hi : ∀ m n, Ending (.incomplete m n) := fun m n => ⟨rfl, rfl⟩
  have hr : ∀ text, ¬ Ending (.relay text) := fun text h => by cases h.2
  obtain ⟨bytes, ending⟩ := reader
  rw [readBound, boundSize]
  split
  · simp [raises_readexactly, not_ending_fault, hi, -bind_pure_comp]
  · split
    · simp [raises_readexactly, not_ending_fault, hi, -bind_pure_comp]
    · split
      · cases bytes with
        | nil =>
          simp [raises_readexactly, returns_readexactly, not_ending_fault, hi, -bind_pure_comp]
        | cons size rest =>
          have hle : rest.length < size.toNat + 2 ↔ rest.length ≤ size.toNat + 1 := by omega
          simp [raises_readexactly, returns_readexactly, not_ending_fault, hi, -bind_pure_comp,
            Nat.add_comm 1, hle]
      · simp [hr]

theorem readBound_contained (kind : UInt8) (reader : Stream) :
    ¬ Raises Escaping (readBound kind reader) := by
  have hi : ∀ m n, ¬ Escaping (.incomplete m n) := fun m n h => by cases h
  have hr : ∀ text, ¬ Escaping (.relay text) := fun text h => by cases h
  rw [readBound]
  split
  · simp [raises_readexactly, not_escaping_fault, hi, -bind_pure_comp]
  · split
    · simp [raises_readexactly, not_escaping_fault, hi, -bind_pure_comp]
    · split
      · simp [raises_readexactly, not_escaping_fault, hi, -bind_pure_comp]
      · simp [hr]

theorem returns_readReply {q : Unit → Prop} (host : String) (reader : Stream) :
    Returns q (readReply host reader) ↔ Replied reader.bytes ∧ q () := by
  simp only [readReply, returns_bind, returns_raiseIf, returns_readexactly, returns_readBound,
    Replied, and_assoc, not_not, ne_eq]

theorem readReply_ends (host : String) (reader : Stream) :
    Raises Ending (readReply host reader) ↔ ReplyCut reader.bytes ∧ reader.ending = none := by
  have hi : ∀ m n, Ending (.incomplete m n) := fun m n => ⟨rfl, rfl⟩
  have hr : ∀ text, ¬ Ending (.relay text) := fun text h => by cases h.2
  simp only [readReply, raises_bind, raises_raiseIf, returns_raiseIf, raises_readexactly,
    returns_readexactly, not_ending_fault, hi, hr, readBound_ends, ReplyCut, and_true, and_false,
    exists_false, or_false, false_or, not_not, ne_eq]
  tauto

theorem readReply_contained (host : String) (reader : Stream) :
    ¬ Raises Escaping (readReply host reader) := by
  have hi : ∀ m n, ¬ Escaping (.incomplete m n) := fun m n h => by cases h
  have hr : ∀ text, ¬ Escaping (.relay text) := fun text h => by cases h
  simp [readReply, raises_raiseIf, raises_readexactly, not_escaping_fault, hi, hr,
    readBound_contained]

theorem length_of_encodable {host : String} :
    (host.toList.map fun c => UInt8.ofNat c.toNat).length = host.length := by
  rw [List.length_map, String.length_toList]

theorem returns_openThroughSocks {q : Unit → Prop} (proxy host : String) (port : Nat)
    (a : Attempt) :
    Returns q (openThroughSocks proxy host port a) ↔ a.TorOpens proxy host ∧ q () := by
  simp only [openThroughSocks, socksRequest, returns_bind, returns_greetProxy, returns_idna,
    returns_raiseIf, returns_pure, returns_awaited, returns_readReply, length_of_encodable,
    Attempt.TorOpens, Attempt.Asks, not_lt, and_assoc]

theorem openThroughSocks_escapes (proxy host : String) (port : Nat) (a : Attempt) :
    Raises Escaping (openThroughSocks proxy host port a) ↔ a.TorEscapes proxy host := by
  have hu : Escaping .unicode := rfl
  have hv : Escaping .value := rfl
  simp only [openThroughSocks, socksRequest, raises_bind, returns_bind, greetProxy_escapes,
    returns_greetProxy, raises_idna, returns_idna, raises_raiseIf, returns_raiseIf, raises_pure,
    returns_pure, raises_awaited, returns_awaited, readReply_contained, not_escaping_fault,
    length_of_encodable, hu, hv, Attempt.TorEscapes, and_true, and_false, exists_false, or_false]
  tauto

theorem openThroughSocks_ends (proxy host : String) (port : Nat) (a : Attempt) :
    Raises Ending (openThroughSocks proxy host port a) ↔ a.TorEnds proxy host := by
  have hu : ¬ Ending .unicode := fun h => by cases h.1
  have hv : ¬ Ending .value := fun h => by cases h.1
  simp only [openThroughSocks, socksRequest, raises_bind, returns_bind, greetProxy_ends,
    returns_greetProxy, raises_idna, returns_idna, raises_raiseIf, returns_raiseIf, raises_pure,
    returns_pure, raises_awaited, returns_awaited, readReply_ends, not_ending_fault,
    length_of_encodable, hu, hv, Attempt.TorEnds, Attempt.Asks, and_false, exists_false,
    or_false, false_or, not_lt]
  tauto

theorem raises_resolveHost (host : String) (infos : Except NetError (List (String × Nat))) :
    Raises p (resolveHost host infos) ↔
      ¬ Encodable host ∧ p .unicode ∨ Encodable host ∧
        ((∃ e, infos = .error e ∧ p e.fault) ∨
          infos = .ok [] ∧ p (.relay (host ++ " resolves to no IPv4 address"))) := by
  simp only [resolveHost, raises_bind, raises_idna, returns_idna]
  cases infos with
  | error e => simp
  | ok infos => cases infos <;> simp

theorem returns_resolveHost {q : String × Nat → Prop} (host : String)
    (infos : Except NetError (List (String × Nat))) :
    Returns q (resolveHost host infos) ↔
      Encodable host ∧ ∃ info rest, infos = .ok (info :: rest) ∧ q info := by
  simp only [resolveHost, returns_bind, returns_idna]
  cases infos with
  | error e => simp
  | ok infos => cases infos <;> simp

theorem raises_firstAnswer (answer : Except NetError (List UInt8)) :
    Raises p (firstAnswer answer) ↔ (∃ e, answer = .error e ∧ p e.fault) ∨
      answer = .ok [] ∧
        p (.relay "the server closed the connection on the ClientHello") := by
  cases answer with
  | error e => simp [firstAnswer]
  | ok answer => cases answer <;> simp [firstAnswer]

theorem returns_firstAnswer {q : List UInt8 → Prop} (answer : Except NetError (List UInt8)) :
    Returns q (firstAnswer answer) ↔ ∃ b rest, answer = .ok (b :: rest) ∧ q (b :: rest) := by
  cases answer with
  | error e => simp [firstAnswer]
  | ok answer => cases answer <;> simp [firstAnswer]

theorem splitHello_short {hello : List UInt8} (hs : Short hello) (cut : Nat) :
    (∃ sent, splitHello hello cut = .ok sent ∧ CutInside hello cut) ∨
      splitHello hello cut = .error (.relay "the cut is outside the ClientHello") ∧
        ¬ CutInside hello cut := by
  have hpack : ∀ part : List UInt8, part.length ≤ hello.length →
      ∃ packet, packRecord (slice hello 1 3) part = .ok packet := by
    intro part hp
    refine ⟨_, if_pos ?_⟩
    rw [Short, recordHeader, maxHelloBytes] at hs
    omega
  rw [splitHello]
  by_cases hc : CutInside hello cut
  · left
    obtain ⟨first, hf⟩ := hpack ((hello.drop recordHeader).take (cut - recordHeader)) (by simp)
    obtain ⟨second, h2⟩ := hpack ((hello.drop recordHeader).drop (cut - recordHeader)) (by simp)
    refine ⟨first ++ second, ?_, hc⟩
    simp only [hf, h2]
    exact if_pos ⟨Nat.sub_pos_of_lt hc.1, by
      rw [List.length_drop]
      exact Nat.sub_lt_sub_right hc.1.le hc.2⟩
  · right
    refine ⟨if_neg ?_, hc⟩
    rintro ⟨h0, h1⟩
    rw [List.length_drop] at h1
    exact hc ⟨by omega, by omega⟩

theorem returns_splitHello {q : Prop} {hello : List UInt8} (hs : Short hello) (cut : Nat) :
    Returns (fun _ => q) (splitHello hello cut) ↔ CutInside hello cut ∧ q := by
  rcases splitHello_short hs cut with ⟨sent, h, hc⟩ | ⟨h, hc⟩
  · simp [h, hc]
  · simp [h, hc]

theorem raises_splitHello {hello : List UInt8} (hs : Short hello) (cut : Nat)
    (hr : ∀ text, ¬ p (.relay text)) : ¬ Raises p (splitHello hello cut) := by
  rcases splitHello_short hs cut with ⟨sent, h, hc⟩ | ⟨h, hc⟩
  · simp [h]
  · simp [h, hr]

namespace Relay

variable (r : Relay)

def WayOpens (host : String) (hello : List UInt8) (cut : Nat) (a : Attempt) : Route → Prop
  | .asIs => a.Connects host ∧ a.Answers
  | .tor => a.TorOpens r.socks host ∧ a.Answers
  | .split => a.Connects host ∧ CutInside hello cut ∧ a.Answers

def WayEscapes (host : String) (a : Attempt) : Route → Prop
  | .tor => a.TorEscapes r.socks host
  | _ => ¬ Encodable host

theorem openWay_returns (host : String) {hello : List UInt8} (hs : Short hello) (cut : Nat)
    (route : Route) (a : Attempt) :
    Returns (fun _ => True) (r.openWay host hello cut route a) ↔
      r.WayOpens host hello cut a route := by
  cases route with
  | asIs =>
    simp only [openWay, returns_bind, reduceCtorEq, if_false, returns_ok, returns_pure,
      returns_awaited, returns_resolveHost, returns_firstAnswer, and_true]
    rw [WayOpens, Attempt.Connects, Attempt.Answers]
    tauto
  | tor =>
    simp only [openWay, returns_bind, reduceCtorEq, if_true, if_false, returns_ok, returns_pure,
      returns_awaited, returns_openThroughSocks, returns_firstAnswer, and_true]
    rfl
  | split =>
    simp only [openWay, returns_bind, reduceCtorEq, if_true, if_false, returns_pure,
      returns_awaited, returns_resolveHost, returns_splitHello hs, returns_firstAnswer, and_true]
    rw [WayOpens, Attempt.Connects, Attempt.Answers]
    tauto

theorem openWay_escapes (host : String) {hello : List UInt8} (hs : Short hello) (cut : Nat)
    (route : Route) (a : Attempt) :
    Raises Escaping (r.openWay host hello cut route a) ↔ r.WayEscapes host a route := by
  have hu : Escaping .unicode := rfl
  have hr : ∀ text, ¬ Escaping (.relay text) := fun text h => by cases h
  cases route with
  | asIs =>
    simp only [openWay, raises_bind, reduceCtorEq, if_false, raises_ok, returns_ok,
      raises_pure, raises_awaited, returns_awaited, raises_resolveHost, returns_resolveHost,
      raises_firstAnswer, returns_firstAnswer, not_escaping_fault, hu, hr, and_true, and_false,
      exists_false, or_false]
    rfl
  | tor =>
    simp only [openWay, raises_bind, reduceCtorEq, if_true, if_false, raises_ok,
      returns_ok, raises_pure, raises_awaited, returns_awaited, openThroughSocks_escapes,
      returns_openThroughSocks, raises_firstAnswer, returns_firstAnswer, not_escaping_fault, hr,
      and_false, exists_false, or_false]
    rfl
  | split =>
    simp only [openWay, raises_bind, reduceCtorEq, if_true, if_false, raises_pure,
      raises_awaited, returns_awaited, raises_resolveHost, returns_resolveHost,
      raises_splitHello hs cut hr, returns_splitHello hs, raises_firstAnswer, returns_firstAnswer,
      not_escaping_fault, hu, hr, and_true, and_false, exists_false, or_false]
    rfl

theorem openWay_ends (host : String) (hello : List UInt8) (cut : Nat) (a : Attempt) :
    Raises Ending (r.openWay host hello cut .tor a) ↔ a.TorEnds r.socks host := by
  have hr : ∀ text, ¬ Ending (.relay text) := fun text h => by cases h.2
  simp only [openWay, raises_bind, reduceCtorEq, if_true, if_false, raises_ok,
    returns_ok, raises_pure, raises_awaited, returns_awaited, openThroughSocks_ends,
    returns_openThroughSocks, raises_firstAnswer, returns_firstAnswer, not_ending_fault, hr,
    and_false, exists_false, or_false]

theorem passing_iff (e : NetError) : e.fault.caughtPlain = true ↔ e.passing = true := by
  cases e <;> rfl

theorem openWay_silent (host : String) (hello : List UInt8) (cut : Nat) (a : Attempt) :
    Raises (·.caughtPlain = true) (r.openWay host hello cut .asIs a) ↔
      Encodable host ∧ a.Silent := by
  have hu : ¬ Fault.unicode.caughtPlain = true := by simp [Fault.caughtPlain]
  have hr : ∀ text, (Fault.relay text).caughtPlain = true := fun text => rfl
  simp only [openWay, raises_bind, reduceCtorEq, if_false, raises_ok, returns_ok,
    raises_pure, raises_awaited, returns_awaited, raises_resolveHost, returns_resolveHost,
    raises_firstAnswer, returns_firstAnswer, passing_iff, hu, hr, and_true, and_false, false_or,
    exists_false, or_false]
  simp only [exists_and_right, ← and_or_left, or_assoc, Attempt.Silent]

theorem caughtAround_iff (e : Fault) :
    e.caughtAround = true ↔ ¬ Escaping e ∧ ¬ Ending e := by
  cases e <;> simp [Escaping, Ending, Fault.caughtAround, Fault.caughtLast]

end Relay

end VibeDPN.Sni
