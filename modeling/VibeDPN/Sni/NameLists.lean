import VibeDPN.Sni.Relay

namespace VibeDPN.Sni

open Bytes

inductive ExtensionsAt (hello : List UInt8) : Nat → Nat → Prop
  | start {suites extensions n m : Nat} (hl : recordHeader ≤ hello.length)
      (hr : hello[0]? = some handshakeRecord) (hc : hello[recordHeader]? = some clientHello)
      (hs : suites = pastBlock hello (recordHeader + (4 + 2 + randomBytes)))
      (hn : u16 hello suites = .ok n) (he : extensions = pastBlock hello (suites + (2 + n)))
      (hm : u16 hello extensions = .ok m) :
      ExtensionsAt hello (extensions + 2) (extensions + 2 + m)

inductive NamesAt (hello : List UInt8) (stop : Nat) : Nat → Nat → Nat → Prop
  | here {pos size : Nat} (hp : pos + 4 ≤ min stop hello.length)
      (hk : u16 hello pos = .ok serverNameExtension) (hs : u16 hello (pos + 2) = .ok size) :
      NamesAt hello stop pos (pos + 4 + 2) (pos + 4 + size)
  | skip {pos kind size first last : Nat} (hp : pos + 4 ≤ min stop hello.length)
      (hk : u16 hello pos = .ok kind) (hne : kind ≠ serverNameExtension)
      (hs : u16 hello (pos + 2) = .ok size)
      (h : NamesAt hello stop (pos + 4 + size) first last) : NamesAt hello stop pos first last

inductive EntriesTo (hello : List UInt8) (stop : Nat) : Nat → Nat → Prop
  | here (entry : Nat) : EntriesTo hello stop entry entry
  | skip {entry size target : Nat} {kind : UInt8} (he : entry + 3 ≤ stop)
      (hk : hello[entry]? = some kind) (hne : kind ≠ hostNameType)
      (hs : u16 hello (entry + 1) = .ok size)
      (h : EntriesTo hello stop (entry + 3 + size) target) : EntriesTo hello stop entry target

def ListAt (hello : List UInt8) (first last : Nat) : Prop :=
  ∃ start stop, ExtensionsAt hello start stop ∧ NamesAt hello stop start first last

def EntryAt (hello : List UInt8) (entry last : Nat) : Prop :=
  ∃ first, ListAt hello first last ∧ EntriesTo hello last first entry ∧ entry + 3 ≤ last

def Overrun (hello : List UInt8) : Prop :=
  ∃ entry last, EntryAt hello entry last ∧ hello.length ≤ entry

def Named (hello : List UInt8) (host : String) (pos : Nat) : Prop :=
  ∃ entry last size, EntryAt hello entry last ∧ hello[entry]? = some hostNameType ∧
    u16 hello (entry + 1) = .ok size ∧ pos = entry + 3 ∧
    host = hostText (slice hello pos (pos + size))

theorem u16_error {data : List UInt8} {pos : Nat} {e : Fault} (h : u16 data pos = .error e) :
    ∃ text, e = .relay text := by
  rw [u16] at h
  split at h
  · cases h
  · cases h
    exact ⟨_, rfl⟩

inductive ListEnd (hello : List UInt8) (entry last : Nat) : Except Fault (Option (String × Nat)) → Prop
  | done (h : last < entry + 3) : ListEnd hello entry last (.ok none)
  | overrun (h : entry + 3 ≤ last) (hl : hello.length ≤ entry) :
      ListEnd hello entry last (.error .index)
  | short {text : String} (h : entry + 3 ≤ last) (hl : entry < hello.length)
      (hs : u16 hello (entry + 1) = .error (.relay text)) :
      ListEnd hello entry last (.error (.relay text))
  | host {size : Nat} (h : entry + 3 ≤ last) (hk : hello[entry]? = some hostNameType)
      (hs : u16 hello (entry + 1) = .ok size) :
      ListEnd hello entry last
        (.ok (some (hostText (slice hello (entry + 3) (entry + 3 + size)), entry + 3)))

theorem nameWalk_skip {hello : List UInt8} {last entry size : Nat} {kind : UInt8}
    (he : entry + 3 ≤ last) (hk : hello[entry]? = some kind) (hne : kind ≠ hostNameType)
    (hs : u16 hello (entry + 1) = .ok size) :
    nameWalk hello last entry = nameWalk hello last (entry + 3 + size) := by
  rw [nameWalk, if_pos he]
  split
  · rename_i h
    rw [hk] at h
    cases h
  · rename_i h
    rw [hk] at h
    cases h
    simp only [hs, bind, Except.bind, if_neg hne]

theorem nameWalk_end {hello : List UInt8} {last entry : Nat}
    {found : Except Fault (Option (String × Nat))} (h : ListEnd hello entry last found) :
    nameWalk hello last entry = found := by
  cases h with
  | done h => rw [nameWalk, if_neg (by omega)]
  | overrun h hl =>
    have hn : hello[entry]? = none := List.getElem?_eq_none hl
    rw [nameWalk, if_pos h]
    split
    · rfl
    · rename_i hs
      rw [hn] at hs
      cases hs
  | short h hl hs =>
    rw [nameWalk, if_pos h]
    split
    · rename_i hn
      exact absurd (List.getElem?_eq_none_iff.mp hn) (by omega)
    · rw [hs]
      rfl
  | host h hk hs =>
    rw [nameWalk, if_pos h]
    split
    · rename_i hn
      rw [hk] at hn
      cases hn
    · rename_i hn
      rw [hk] at hn
      cases hn
      simp only [hs, bind, Except.bind, if_true]
      rfl

theorem nameWalk_of_entries {hello : List UInt8} {last first entry : Nat}
    (h : EntriesTo hello last first entry) :
    nameWalk hello last first = nameWalk hello last entry := by
  induction h with
  | here => rfl
  | skip he hk hne hs _ ih => rw [nameWalk_skip he hk hne hs, ih]

theorem entries_end (hello : List UInt8) (last first : Nat) :
    ∃ entry found, EntriesTo hello last first entry ∧ ListEnd hello entry last found := by
  induction h : hello.length - first using Nat.strong_induction_on generalizing first with
  | _ n ih =>
    by_cases he : first + 3 ≤ last
    · cases hk : hello[first]? with
      | none => exact ⟨first, _, .here first, .overrun he (List.getElem?_eq_none_iff.mp hk)⟩
      | some kind =>
        have hl : first < hello.length := (List.getElem?_eq_some_iff.mp hk).1
        cases hs : u16 hello (first + 1) with
        | error e =>
          obtain ⟨text, rfl⟩ := u16_error hs
          exact ⟨first, _, .here first, .short he hl hs⟩
        | ok size =>
          by_cases hne : kind = hostNameType
          · exact ⟨first, _, .here first, .host he (hne ▸ hk) hs⟩
          · obtain ⟨entry, found, hto, hend⟩ :=
              ih (hello.length - (first + 3 + size)) (by omega) (first + 3 + size) rfl
            exact ⟨entry, found, .skip he hk hne hs hto, hend⟩
    · exact ⟨first, _, .here first, .done (by omega)⟩

theorem extensionWalk_of_names {hello : List UInt8} {stop pos first last : Nat}
    (h : NamesAt hello stop pos first last) :
    extensionWalk hello stop pos = nameWalk hello last first := by
  induction h with
  | here hp hk hs =>
    rw [extensionWalk, dif_pos hp, hk, hs]
    rfl
  | skip hp hk hne hs _ ih =>
    rw [extensionWalk, dif_pos hp, hk, hs]
    exact (if_pos hne).trans ih

theorem extensionWalk_names_or (hello : List UInt8) (stop pos : Nat) :
    (∃ first last, NamesAt hello stop pos first last) ∨ extensionWalk hello stop pos = .ok none := by
  induction h : hello.length - pos using Nat.strong_induction_on generalizing pos with
  | _ n ih =>
    by_cases hp : pos + 4 ≤ min stop hello.length
    · obtain ⟨kind, _, hk⟩ := u16_of_lt (show pos + 2 ≤ hello.length by omega)
      obtain ⟨size, _, hs⟩ := u16_of_lt (show pos + 2 + 2 ≤ hello.length by omega)
      by_cases hne : kind = serverNameExtension
      · exact .inl ⟨_, _, .here hp (hne ▸ hk) hs⟩
      · cases ih (hello.length - (pos + 4 + size)) (by omega) (pos + 4 + size) rfl with
        | inl h =>
          obtain ⟨first, last, h⟩ := h
          exact .inl ⟨first, last, .skip hp hk hne hs h⟩
        | inr h =>
          right
          rw [extensionWalk, dif_pos hp, hk, hs]
          exact (if_pos hne).trans h
    · exact .inr (by rw [extensionWalk, dif_neg hp])

def nameOr : Except Fault (Option (String × Nat)) → Except Fault (String × Nat)
  | .ok (some found) => .ok found
  | .ok none => .error (.relay "the ClientHello names no server")
  | .error e => .error e

theorem serverName_of_extensions {hello : List UInt8} {start stop : Nat}
    (h : ExtensionsAt hello start stop) :
    serverName hello = nameOr (extensionWalk hello stop start) := by
  cases h with
  | start hl hr hc hs hn he hm =>
    subst hs he
    rw [serverName, if_neg (by simp [hr, hl]), if_neg (by simp [hc])]
    simp only [hn, hm, bind, Except.bind]
    cases extensionWalk hello _ _ with
    | error e => rfl
    | ok found => cases found <;> rfl

theorem serverName_extensions_or (hello : List UInt8) :
    (∃ start stop, ExtensionsAt hello start stop) ∨
      ∃ text, serverName hello = .error (.relay text) := by
  rw [serverName]
  split
  · exact .inr ⟨_, rfl⟩
  · rename_i hr
    split
    · exact .inr ⟨_, rfl⟩
    · rename_i hc
      cases hn : u16 hello (pastBlock hello (recordHeader + (4 + 2 + randomBytes))) with
      | error e =>
        obtain ⟨text, rfl⟩ := u16_error hn
        exact .inr ⟨text, by simp only [hn]; rfl⟩
      | ok n =>
        cases hm : u16 hello (pastBlock hello
            (pastBlock hello (recordHeader + (4 + 2 + randomBytes)) + (2 + n))) with
        | error e =>
          obtain ⟨text, rfl⟩ := u16_error hm
          exact .inr ⟨text, by simp only [hn, bind, Except.bind, hm]⟩
        | ok m =>
          push Not at hr hc
          exact .inl ⟨_, _, .start hr.1 hr.2 hc rfl hn rfl hm⟩

theorem serverName_of_list {hello : List UInt8} {first last : Nat} (h : ListAt hello first last) :
    serverName hello = nameOr (nameWalk hello last first) := by
  obtain ⟨start, stop, he, hn⟩ := h
  rw [serverName_of_extensions he, extensionWalk_of_names hn]

theorem serverName_list_or (hello : List UInt8) :
    (∃ first last, ListAt hello first last) ∨ ∃ text, serverName hello = .error (.relay text) := by
  cases serverName_extensions_or hello with
  | inr h => exact .inr h
  | inl h =>
    obtain ⟨start, stop, he⟩ := h
    cases extensionWalk_names_or hello stop start with
    | inl h =>
      obtain ⟨first, last, hn⟩ := h
      exact .inl ⟨first, last, start, stop, he, hn⟩
    | inr h => exact .inr ⟨_, by rw [serverName_of_extensions he, h]; rfl⟩

theorem serverName_cases (hello : List UInt8) :
    (Overrun hello ∧ serverName hello = .error .index) ∨
      (∃ host pos, Named hello host pos ∧ serverName hello = .ok (host, pos)) ∨
      ∃ text, serverName hello = .error (.relay text) := by
  cases serverName_list_or hello with
  | inr h => exact .inr (.inr h)
  | inl h =>
    obtain ⟨first, last, hlist⟩ := h
    obtain ⟨entry, found, hto, hend⟩ := entries_end hello last first
    have hname : serverName hello = nameOr found := by
      rw [serverName_of_list hlist, nameWalk_of_entries hto, nameWalk_end hend]
    cases hend with
    | done h => exact .inr (.inr ⟨_, hname⟩)
    | overrun h hl => exact .inl ⟨⟨entry, last, ⟨first, hlist, hto, h⟩, hl⟩, hname⟩
    | short h hl hs => exact .inr (.inr ⟨_, hname⟩)
    | host h hk hs =>
      exact .inr (.inl ⟨_, _, ⟨entry, last, _, ⟨first, hlist, hto, h⟩, hk, hs, rfl, rfl⟩, hname⟩)

theorem serverName_of_overrun {hello : List UInt8} (h : Overrun hello) :
    serverName hello = .error .index := by
  obtain ⟨entry, last, ⟨first, hlist, hto, he⟩, hl⟩ := h
  rw [serverName_of_list hlist, nameWalk_of_entries hto, nameWalk_end (.overrun he hl)]
  rfl

theorem serverName_of_named {hello : List UInt8} {host : String} {pos : Nat}
    (h : Named hello host pos) : serverName hello = .ok (host, pos) := by
  obtain ⟨entry, last, size, ⟨first, hlist, hto, he⟩, hk, hs, rfl, rfl⟩ := h
  rw [serverName_of_list hlist, nameWalk_of_entries hto, nameWalk_end (.host he hk hs)]
  rfl

theorem Named.le {hello : List UInt8} {host : String} {pos : Nat} (h : Named hello host pos) :
    pos + host.length ≤ hello.length := by
  obtain ⟨entry, last, size, _, _, hs, rfl, rfl⟩ := h
  have hle : entry + 3 ≤ hello.length := by
    by_contra hlt
    rw [u16_of_le (by omega)] at hs
    cases hs
  rw [length_hostText, length_slice]
  omega

def NameSafe (hello : List UInt8) : Prop :=
  match serverName hello with
  | .ok (host, pos) => pos + host.length ≤ hello.length
  | .error e => ∃ text, e = .relay text

theorem name_safe_iff (hello : List UInt8) : NameSafe hello ↔ ¬ Overrun hello := by
  rcases serverName_cases hello with ⟨ho, hs⟩ | ⟨host, pos, hn, hs⟩ | ⟨text, hs⟩
  · have : ¬ NameSafe hello := by
      rw [NameSafe, hs]
      rintro ⟨text, h⟩
      cases h
    exact iff_of_false this (fun h => h ho)
  · have hno : ¬ Overrun hello := by
      intro ho
      rw [serverName_of_overrun ho] at hs
      cases hs
    have : NameSafe hello := by
      rw [NameSafe, hs]
      exact hn.le
    exact iff_of_true this hno
  · have hno : ¬ Overrun hello := by
      intro ho
      rw [serverName_of_overrun ho] at hs
      cases hs
    have : NameSafe hello := by
      rw [NameSafe, hs]
      exact ⟨text, rfl⟩
    exact iff_of_true this hno

end VibeDPN.Sni
