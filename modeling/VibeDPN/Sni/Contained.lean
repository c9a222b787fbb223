import VibeDPN.Lib.Runs
import VibeDPN.Sni.Ways

namespace VibeDPN.Sni

namespace Relay

variable (r : Relay)

theorem around_cons (host : String) (hello : List UInt8) (cut : Nat) (attempts : Route → Attempt)
    (route : Route) (ways : List Route) (last : String) :
    (∃ opened, r.openWay host hello cut route (attempts route) = .ok opened ∧
        (around host hello cut attempts (route :: ways) last r).2 = .ok opened) ∨
      (∃ e, r.openWay host hello cut route (attempts route) = .error e ∧ e.caughtAround = false ∧
        (around host hello cut attempts (route :: ways) last r).2 = .error e) ∨
      ∃ e line, r.openWay host hello cut route (attempts route) = .error e ∧
        e.caughtAround = true ∧ around host hello cut attempts (route :: ways) last r =
          around host hello cut attempts ways (reason e) (r.log line) := by
  rw [around]
  cases h : r.openWay host hello cut route (attempts route) with
  | ok opened => exact .inl ⟨opened, rfl, rfl⟩
  | error e =>
    cases hc : e.caughtAround with
    | false => exact .inr (.inl ⟨e, rfl, hc, by simp [hc]⟩)
    | true => exact .inr (.inr ⟨e, _, rfl, hc, if_pos hc⟩)

variable {r}

theorem around_returns {host : String} {hello : List UInt8} {cut : Nat}
    {attempts : Route → Attempt} {route : Route} {ways : List Route} {last : String} {q : Prop}
    (h : ∀ line last, Returns (fun _ => True)
      (around host hello cut attempts ways last (r.log line)).2 ↔ q) :
    Returns (fun _ => True) (around host hello cut attempts (route :: ways) last r).2 ↔
      Returns (fun _ => True) (r.openWay host hello cut route (attempts route)) ∨
        Raises (·.caughtAround = true) (r.openWay host hello cut route (attempts route)) ∧ q := by
  rcases r.around_cons host hello cut attempts route ways last with
    ⟨opened, ho, ha⟩ | ⟨e, ho, hc, ha⟩ | ⟨e, line, ho, hc, ha⟩
  · simp [ho, ha]
  · simp [ho, ha, hc]
  · rw [ho, ha, h]
    simp [hc]

theorem around_escapes {host : String} {hello : List UInt8} {cut : Nat}
    {attempts : Route → Attempt} {route : Route} {ways : List Route} {last : String} {q : Prop}
    (h : ∀ line last, Raises Escaping
      (around host hello cut attempts ways last (r.log line)).2 ↔ q) :
    Raises Escaping (around host hello cut attempts (route :: ways) last r).2 ↔
      Raises Escaping (r.openWay host hello cut route (attempts route)) ∨
        Raises (·.caughtAround = true) (r.openWay host hello cut route (attempts route)) ∧ q := by
  rcases r.around_cons host hello cut attempts route ways last with
    ⟨opened, ho, ha⟩ | ⟨e, ho, hc, ha⟩ | ⟨e, line, ho, hc, ha⟩
  · simp [ho, ha]
  · simp [ho, ha, hc]
  · have hn : ¬ Escaping e := ((caughtAround_iff e).mp hc).1
    rw [ho, ha, h]
    simp [hc, hn]

theorem caughtAround_openWay {host : String} {hello : List UInt8} (hs : Short hello) (cut : Nat)
    (a : Attempt) : Raises (·.caughtAround = true) (r.openWay host hello cut .tor a) ↔
      ¬ r.WayOpens host hello cut a .tor ∧ ¬ r.WayEscapes host a .tor ∧ ¬ a.TorEnds r.socks host := by
  rw [← r.openWay_returns host hs cut .tor a, ← r.openWay_escapes host hs cut .tor a,
    ← r.openWay_ends host hello cut a]
  cases r.openWay host hello cut .tor a with
  | ok opened => simp
  | error e => simp [caughtAround_iff]

theorem around_split_returns {host : String} {hello : List UInt8} (hs : Short hello) (cut : Nat)
    (attempts : Route → Attempt) (last : String) :
    Returns (fun _ => True) (around host hello cut attempts [.split] last r).2 ↔
      r.WayOpens host hello cut (attempts .split) .split := by
  rw [around_returns (q := False) (by simp [around]), r.openWay_returns host hs]
  simp

theorem around_split_escapes {host : String} {hello : List UInt8} (hs : Short hello) (cut : Nat)
    (attempts : Route → Attempt) (last : String) :
    Raises Escaping (around host hello cut attempts [.split] last r).2 ↔ ¬ Encodable host := by
  rw [around_escapes (q := False) (by simp [around, Escaping, Fault.caughtLast]),
    r.openWay_escapes host hs]
  simp [WayEscapes]

variable (r)

def UpstreamEscapes (host : String) (attempts : Route → Attempt) : Prop :=
  match r.routes.get? host with
  | some known => r.WayEscapes host (attempts known) known
  | none => ¬ Encodable host ∨
      (attempts .asIs).Silent ∧ r.socks ≠ "" ∧ (attempts .tor).TorEscapes r.socks host

def UpstreamOpens (host : String) (hello : List UInt8) (cut : Nat) (attempts : Route → Attempt) :
    Prop :=
  match r.routes.get? host with
  | some known => r.WayOpens host hello cut (attempts known) known
  | none => r.WayOpens host hello cut (attempts .asIs) .asIs ∨
      Encodable host ∧ (attempts .asIs).Silent ∧
        (r.socks ≠ "" ∧ r.WayOpens host hello cut (attempts .tor) .tor ∨
          (r.socks ≠ "" → ¬ r.WayOpens host hello cut (attempts .tor) .tor ∧
            ¬ (attempts .tor).TorEscapes r.socks host ∧ ¬ (attempts .tor).TorEnds r.socks host) ∧
          r.WayOpens host hello cut (attempts .split) .split)

theorem upstream_unknown {host : String} (hello : List UInt8) (cut : Nat)
    (attempts : Route → Attempt) (h : r.routes.get? host = none) :
    (∃ opened, r.openWay host hello cut .asIs (attempts .asIs) = .ok opened ∧
        (r.upstream host hello cut attempts).2 = .ok opened) ∨
      (∃ e, r.openWay host hello cut .asIs (attempts .asIs) = .error e ∧ e.caughtPlain = false ∧
        (r.upstream host hello cut attempts).2 = .error e) ∨
      ∃ e line, r.openWay host hello cut .asIs (attempts .asIs) = .error e ∧
        e.caughtPlain = true ∧ r.upstream host hello cut attempts =
          around host hello cut attempts r.ways "" (r.log line) := by
  simp only [upstream, h]
  cases ho : r.openWay host hello cut .asIs (attempts .asIs) with
  | ok opened => exact .inl ⟨opened, rfl, rfl⟩
  | error e =>
    cases hc : e.caughtPlain with
    | false => exact .inr (.inl ⟨e, rfl, hc, by simp [hc]⟩)
    | true => exact .inr (.inr ⟨e, _, rfl, hc, if_pos hc⟩)

theorem ways_returns {host : String} {hello : List UInt8} (hs : Short hello) (cut : Nat)
    (attempts : Route → Attempt) (line : String) :
    Returns (fun _ => True) (around host hello cut attempts r.ways "" (r.log line)).2 ↔
      r.socks ≠ "" ∧ r.WayOpens host hello cut (attempts .tor) .tor ∨
        (r.socks ≠ "" → ¬ r.WayOpens host hello cut (attempts .tor) .tor ∧
          ¬ (attempts .tor).TorEscapes r.socks host ∧ ¬ (attempts .tor).TorEnds r.socks host) ∧
        r.WayOpens host hello cut (attempts .split) .split := by
  rw [ways]
  split
  · rename_i hne
    rw [around_returns (fun line last => around_split_returns hs cut attempts last),
      caughtAround_openWay hs cut, openWay_returns _ host hs]
    simp only [hne, ne_eq, not_false_eq_true, true_and, forall_const]
    rfl
  · rename_i hne
    rw [around_split_returns hs cut attempts]
    simp only [hne, false_and, false_or, false_implies, true_and]
    rfl

theorem ways_escape {host : String} {hello : List UInt8} (hs : Short hello) (cut : Nat)
    (attempts : Route → Attempt) (line : String) (he : Encodable host) :
    Raises Escaping (around host hello cut attempts r.ways "" (r.log line)).2 ↔
      r.socks ≠ "" ∧ (attempts .tor).TorEscapes r.socks host := by
  rw [ways]
  split
  · rename_i hne
    rw [around_escapes (fun line last => around_split_escapes hs cut attempts last),
      openWay_escapes _ host hs]
    simp only [hne, he, not_true_eq_false, and_false, or_false, ne_eq, not_false_eq_true, true_and]
    rfl
  · rename_i hne
    rw [around_split_escapes hs cut attempts]
    simp only [hne, he, not_true_eq_false, false_and]

theorem upstream_escapes (host : String) {hello : List UInt8} (hs : Short hello) (cut : Nat)
    (attempts : Route → Attempt) :
    Raises Escaping (r.upstream host hello cut attempts).2 ↔ r.UpstreamEscapes host attempts := by
  cases hk : r.routes.get? host with
  | some known =>
    simp only [upstream, UpstreamEscapes, hk]
    exact r.openWay_escapes host hs cut known (attempts known)
  | none =>
    simp only [UpstreamEscapes, hk]
    have hesc := r.openWay_escapes host hs cut .asIs (attempts .asIs)
    have hsil := r.openWay_silent host hello cut (attempts .asIs)
    rcases r.upstream_unknown hello cut attempts hk with
      ⟨opened, ho, hu⟩ | ⟨e, ho, hc, hu⟩ | ⟨e, line, ho, hc, hu⟩
    · simp only [ho, raises_ok, false_iff] at hesc hsil
      simp only [hu, raises_ok, false_iff]
      rintro (h | ⟨h, _⟩)
      · exact hesc h
      · exact hsil ⟨not_not.mp hesc, h⟩
    · simp only [ho, raises_error, hc, Bool.false_eq_true, false_iff] at hesc hsil
      simp only [hu, raises_error, hesc, WayEscapes]
      constructor
      · exact .inl
      · rintro (h | ⟨h, _⟩)
        · exact h
        · exact fun he => hsil ⟨he, h⟩
    · simp only [ho, raises_error, hc, true_iff] at hesc hsil
      rw [hu, r.ways_escape hs cut attempts line hsil.1]
      simp only [hsil.1, hsil.2, not_true_eq_false, true_and, false_or]

theorem upstream_opens (host : String) {hello : List UInt8} (hs : Short hello) (cut : Nat)
    (attempts : Route → Attempt) :
    Returns (fun _ => True) (r.upstream host hello cut attempts).2 ↔
      r.UpstreamOpens host hello cut attempts := by
  cases hk : r.routes.get? host with
  | some known =>
    simp only [upstream, UpstreamOpens, hk]
    exact r.openWay_returns host hs cut known (attempts known)
  | none =>
    simp only [UpstreamOpens, hk]
    have hret := r.openWay_returns host hs cut .asIs (attempts .asIs)
    have hsil := r.openWay_silent host hello cut (attempts .asIs)
    rcases r.upstream_unknown hello cut attempts hk with
      ⟨opened, ho, hu⟩ | ⟨e, ho, hc, hu⟩ | ⟨e, line, ho, hc, hu⟩
    · simp only [ho, returns_ok, true_iff] at hret
      simp only [hu, returns_ok, true_iff]
      exact .inl hret
    · simp only [ho, returns_error, raises_error, hc, Bool.false_eq_true, false_iff] at hret hsil
      simp only [hu, returns_error, false_iff]
      rintro (h | ⟨he, h, _⟩)
      · exact hret h
      · exact hsil ⟨he, h⟩
    · simp only [ho, returns_error, raises_error, hc, true_iff, false_iff] at hret hsil
      rw [hu, r.ways_returns hs cut attempts line]
      simp only [hret, hsil.1, hsil.2, true_and, false_or]

def Sound (hello : List UInt8) (attempts : Route → Attempt) (drained : Option NetError) : Prop :=
  ¬ Overrun hello ∧ ∀ host pos, Named hello host pos → served r.zone host = true →
    ¬ r.UpstreamEscapes host attempts ∧
      (drained = none ∨ ¬ r.UpstreamOpens host hello (cutOf host pos) attempts)

end Relay

-- the connection is piped, or the client's writer is closed with a line in the log; a caller
-- that said nothing is not worth one
inductive Contained (r : Relay) (reader : Stream) : Relay × HandleEnd → Prop
  | piped (s : Relay) (opened : Opened) : Contained r reader (s, .piped opened)
  | logged (s : Relay) (text : String) :
      Contained r reader (s.log ("connection refused: " ++ text), .closed)
  | silent {n : Nat} (h : readHello reader = .error (.incomplete 0 n)) :
      Contained r reader (r, .closed)

theorem contained_refuse {r s : Relay} {reader : Stream} {e : Fault} :
    Contained r reader (s.refuse e) ↔ ¬ Escaping e := by
  rw [Relay.refuse]
  cases hc : e.caughtLast with
  | false =>
    rw [if_neg (by simp)]
    refine iff_of_false (fun h => by cases h) (not_not.mpr hc)
  | true =>
    rw [if_pos rfl]
    exact iff_of_true (.logged s (reason e)) (by simp [Escaping, hc])

theorem readHello_contained (reader : Stream) : ¬ Raises Escaping (readHello reader) := by
  have hi : ∀ m n, ¬ Escaping (.incomplete m n) := fun m n h => by cases h
  have hr : ∀ text, ¬ Escaping (.relay text) := fun text h => by cases h
  have hu : ∀ data pos, ¬ Raises Escaping (u16 data pos) := by
    rintro data pos ⟨e, h, he⟩
    obtain ⟨text, rfl⟩ := u16_error h
    exact hr text he
  simp only [readHello, raises_bind, raises_readexactly, raises_raiseIf, raises_pure, hi,
    hr, hu, not_escaping_fault, and_false, exists_false, or_self,
    returns_false, not_false_eq_true]

theorem length_readexactly {s t : Stream} {n : Nat} {l : List UInt8}
    (h : s.readexactly n = .ok (l, t)) : l.length = n := by
  rw [Stream.readexactly] at h
  split at h
  · cases h
    rw [List.length_take]
    omega
  · split at h <;> cases h

theorem short_readHello {reader : Stream} {hello : List UInt8} (h : readHello reader = .ok hello) :
    Short hello := by
  obtain ⟨⟨header, rest⟩, hheader, h⟩ := bind_ok h
  obtain ⟨length, _, h⟩ := bind_ok h
  obtain ⟨_, hfits, h⟩ := bind_ok h
  obtain ⟨⟨payload, _⟩, hpayload, h⟩ := bind_ok h
  cases h
  have hle : length ≤ maxHelloBytes := by
    by_contra hlt
    rw [raiseIf, if_pos (by omega)] at hfits
    cases hfits
  rw [Short, List.length_append, length_readexactly hheader, length_readexactly hpayload]
  omega

theorem sound_named {r : Relay} {hello : List UInt8} {attempts : Route → Attempt}
    {drained : Option NetError} {host : String} {pos : Nat} (hm : Named hello host pos)
    (hno : ¬ Overrun hello) : r.Sound hello attempts drained ↔
      (served r.zone host = true → ¬ r.UpstreamEscapes host attempts ∧
        (drained = none ∨ ¬ r.UpstreamOpens host hello (cutOf host pos) attempts)) := by
  constructor
  · exact fun h => h.2 host pos hm
  · refine fun h => ⟨hno, fun host' pos' hm' => ?_⟩
    have := serverName_of_named hm'
    rw [serverName_of_named hm] at this
    cases this
    exact h

theorem handle_contained_iff (r : Relay) (reader : Stream) (attempts : Route → Attempt)
    (drained : Option NetError) :
    Contained r reader (r.handle reader attempts drained) ↔
      ∀ hello, readHello reader = .ok hello → r.Sound hello attempts drained := by
  rw [Relay.handle]
  cases hh : readHello reader with
  | error e =>
    have hno : ¬ Escaping e := fun he => readHello_contained reader ⟨e, hh, he⟩
    refine iff_of_true ?_ (fun hello h => by cases h)
    split
    · rename_i n h
      cases h
      exact .silent hh
    · rename_i h
      cases h
      exact contained_refuse.mpr hno
    · rename_i h
      cases h
  | ok hello =>
    have hs := short_readHello hh
    simp only [Except.ok.injEq, forall_eq']
    rcases serverName_cases hello with ⟨ho, hn⟩ | ⟨host, pos, hm, hn⟩ | ⟨text, hn⟩
    · simp only [hn]
      exact iff_of_false (fun h => contained_refuse.mp h rfl) (fun h => h.1 ho)
    · have hno : ¬ Overrun hello := by
        intro ho
        rw [serverName_of_overrun ho] at hn
        cases hn
      simp only [hn]
      rw [sound_named hm hno]
      by_cases hz : served r.zone host = true
      · rw [if_pos hz]
        have hesc := r.upstream_escapes host hs (cutOf host pos) attempts
        have hopen := r.upstream_opens host hs (cutOf host pos) attempts
        cases hu : r.upstream host hello (cutOf host pos) attempts with
        | mk s res =>
          rw [hu] at hesc hopen
          cases res with
          | error e =>
            simp only [raises_error, returns_error, false_iff] at hesc hopen
            simp only [contained_refuse, hesc, hopen, hz, not_false_eq_true, or_true, and_true,
              forall_const]
          | ok opened =>
            simp only [raises_ok, returns_ok, false_iff, true_iff] at hesc hopen
            cases drained with
            | none => exact iff_of_true (.piped s opened) (fun _ => ⟨hesc, .inl rfl⟩)
            | some e =>
              refine iff_of_false (fun h => by cases h) (fun h => ?_)
              cases (h hz).2 with
              | inl h => cases h
              | inr h => exact h hopen
      · rw [if_neg hz]
        exact iff_of_true (contained_refuse.mpr (fun h => by cases h)) (fun h => absurd h hz)
    · simp only [hn]
      refine iff_of_true (contained_refuse.mpr (fun h => by cases h)) ⟨?_, ?_⟩
      · intro ho
        rw [serverName_of_overrun ho] at hn
        cases hn
      · intro host pos hm
        rw [serverName_of_named hm] at hn
        cases hn

theorem first_bytes_contained (hello : List UInt8) (r : Relay) (reader : Stream)
    (attempts : Route → Attempt) (drained : Option NetError) :
    (NameSafe hello ↔ ¬ Overrun hello) ∧
      (Contained r reader (r.handle reader attempts drained) ↔
        ∀ record, readHello reader = .ok record → r.Sound record attempts drained) :=
  ⟨name_safe_iff hello, handle_contained_iff r reader attempts drained⟩

-- the record ends right after the header of its server_name extension
def endingHello : List UInt8 :=
  [0x16, 3, 1, 0, 51, 1, 0, 0, 47, 3, 3] ++ List.replicate 32 7 ++
    [0, 0, 2, 0x13, 1, 1, 0, 0, 4, 0, 0, 0, 5]

theorem sevens_length : (List.replicate 32 (7 : UInt8)).length = randomBytes := by decide

theorem plain_length : [(0 : UInt8)].length < 256 := by decide

def dottedHello : HelloRecord where
  version := (3, 1)
  hello :=
    { version := (3, 3)
      random := List.replicate 32 7
      session := []
      suites := [0x13, 0x01]
      compressions := [0]
      extensions :=
        [.names [⟨0, ".mysterium.network".toList.map (fun c => UInt8.ofNat c.toNat), by decide⟩]
          (by decide)]
      random_length := sevens_length
      session_fits := by decide
      suites_fits := by decide
      compressions_fits := plain_length
      extensions_fits := by decide }
  trailing := []
  fits := by decide

def quietAttempt : Attempt :=
  ⟨none, .error .timeout, none, none, ⟨[], none⟩, none, none, .error .timeout⟩

theorem first_bytes_escape :
    ¬ NameSafe endingHello ∧
      (Relay.handle {} ⟨endingHello, none⟩ (fun _ => quietAttempt) none).2 = .raised .index ∧
      (Relay.handle {} ⟨dottedHello.bytes, none⟩ (fun _ => quietAttempt) none).2 =
        .raised .unicode := by
  have hs : serverName endingHello = .error .index := by decide +kernel
  refine ⟨?_, by decide +kernel, by decide +kernel⟩
  rw [NameSafe, hs]
  rintro ⟨text, h⟩
  cases h

end VibeDPN.Sni
