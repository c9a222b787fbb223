import VibeDPN.Sni.ClientHello

namespace VibeDPN.Sni

open Bytes

def defaultZone : String := "mysterium.network"

def served (zone host : String) : Bool := host == zone || Text.endsWith host ("." ++ zone)

theorem zone_le_of_served {zone host : String} (h : served zone host = true) :
    zone.length ≤ host.length := by
  rw [served, Bool.or_eq_true, beq_iff_eq, Text.endsWith, List.isSuffixOf_iff_suffix] at h
  cases h with
  | inl h => rw [h]
  | inr h =>
    have := h.length_le
    simp only [String.toList_append, List.length_append, String.length_toList] at this
    omega

namespace HelloRecord

variable (r : HelloRecord)

def lead : List UInt8 :=
  handshakeRecord :: [r.version.1, r.version.2] ++ packed r.record.payload.length ++
    (r.hello.header ++ r.hello.opening)

theorem length_lead : r.lead.length = recordHeader + (4 + 2 + randomBytes) := by
  simp [lead, ClientHello.header, ClientHello.opening, r.hello.random_length, recordHeader,
    randomBytes]

theorem bytes_eq : r.bytes = r.lead ++ (ClientHello.block r.hello.session ++
    (ClientHello.vector r.hello.suites ++ (ClientHello.block r.hello.compressions ++
      (ClientHello.vector (r.hello.extensions.flatMap Extension.bytes) ++ r.trailing)))) := by
  simp [bytes, TlsRecord.bytes, record, lead, ClientHello.bytes, ClientHello.body,
    ClientHello.fields]

theorem suites_at : pastBlock r.bytes (recordHeader + (4 + 2 + randomBytes)) =
    (r.lead ++ ClientHello.block r.hello.session).length := by
  rw [r.bytes_eq, ← r.length_lead, List.length_append, ClientHello.block, List.length_cons,
    Nat.add_comm _ 1]
  exact pastBlock_append _ _ _ r.hello.session_fits

theorem suites_size : u16 r.bytes (r.lead ++ ClientHello.block r.hello.session).length =
    .ok r.hello.suites.length := by
  have := u16_append r.hello.suites_fits (r.lead ++ ClientHello.block r.hello.session)
    (r.hello.suites ++ (ClientHello.block r.hello.compressions ++
      (ClientHello.vector (r.hello.extensions.flatMap Extension.bytes) ++ r.trailing)))
  rw [r.bytes_eq, ClientHello.vector]
  simpa only [List.append_assoc] using this

theorem extensions_at : pastBlock r.bytes
      ((r.lead ++ ClientHello.block r.hello.session).length + (2 + r.hello.suites.length)) =
    (r.lead ++ r.hello.fields).length := by
  have hp : (r.lead ++ (ClientHello.block r.hello.session ++
      ClientHello.vector r.hello.suites)).length =
      (r.lead ++ ClientHello.block r.hello.session).length + (2 + r.hello.suites.length) := by
    simp only [ClientHello.vector, List.length_append, length_packed, Nat.add_assoc]
  have hf : (r.lead ++ r.hello.fields).length =
      (r.lead ++ (ClientHello.block r.hello.session ++ ClientHello.vector r.hello.suites)).length +
        (1 + r.hello.compressions.length) := by
    simp only [ClientHello.fields, ClientHello.block, List.length_append, List.length_cons,
      Nat.add_assoc, Nat.add_comm 1]
  rw [← hp, hf, ← pastBlock_append _ _
    (ClientHello.vector (r.hello.extensions.flatMap Extension.bytes) ++ r.trailing)
    r.hello.compressions_fits, r.bytes_eq]
  simp only [ClientHello.block, List.append_assoc, List.cons_append]

theorem extensions_size : u16 r.bytes (r.lead ++ r.hello.fields).length =
    .ok (r.hello.extensions.flatMap Extension.bytes).length := by
  rw [← u16_append r.hello.extensions_fits (r.lead ++ r.hello.fields)
    (r.hello.extensions.flatMap Extension.bytes ++ r.trailing), r.bytes_eq]
  simp only [ClientHello.fields, ClientHello.vector, List.append_assoc]

theorem extensions_walk : extensionWalk r.bytes
      ((r.lead ++ r.hello.fields).length + 2 + (r.hello.extensions.flatMap Extension.bytes).length)
      ((r.lead ++ r.hello.fields).length + 2) =
    .ok (Found r.firstHost) := by
  have := extensionWalk_names r.hello.extensions
    (r.lead ++ (r.hello.fields ++ packed (r.hello.extensions.flatMap Extension.bytes).length))
    r.trailing
  have hl : (r.lead ++ (r.hello.fields ++
      packed (r.hello.extensions.flatMap Extension.bytes).length)).length =
      (r.lead ++ r.hello.fields).length + 2 := by
    simp only [List.length_append, length_packed, Nat.add_assoc]
  have hat : (r.lead ++ r.hello.fields).length + 2 = r.hello.extensionsAt := by
    rw [List.length_append, r.length_lead, ClientHello.extensionsAt]
  rw [hl] at this
  rw [firstHost, ← hat, ← this, r.bytes_eq]
  simp only [ClientHello.fields, ClientHello.vector, List.append_assoc]

theorem serverName_bytes : serverName r.bytes =
    match Found r.firstHost with
    | some found => .ok found
    | none => .error (.relay "the ClientHello names no server") := by
  have hh : r.bytes[0]? = some handshakeRecord := rfl
  have hc : r.bytes[recordHeader]? = some clientHello := rfl
  have hl : recordHeader ≤ r.bytes.length := by
    rw [r.bytes_eq, List.length_append, r.length_lead]
    omega
  rw [serverName, if_neg (by rw [hh]; simp [hl]), if_neg (by rw [hc]; simp)]
  simp only [r.suites_at, r.suites_size, bind, Except.bind, r.extensions_at, r.extensions_size,
    r.extensions_walk]
  cases Found r.firstHost <;> rfl

end HelloRecord

def LiesAt (data name : List UInt8) (pos : Nat) : Prop :=
  ∃ before after, data = before ++ (name ++ after) ∧ before.length = pos

theorem LiesAt.le {data name : List UInt8} {pos : Nat} (h : LiesAt data name pos) :
    pos + name.length ≤ data.length := by
  obtain ⟨before, after, rfl, rfl⟩ := h
  simp only [List.length_append]
  omega

theorem LiesAt.slice {data name : List UInt8} {pos : Nat} (h : LiesAt data name pos) :
    slice data pos (pos + name.length) = name := by
  obtain ⟨before, after, rfl, rfl⟩ := h
  exact slice_append before name after

theorem firstName_lies {name : List UInt8} {pos : Nat} (es : List NameEntry) :
    ∀ pre rest : List UInt8, firstName pre.length es = some (name, pos) →
      pre.length ≤ pos ∧ LiesAt (pre ++ (es.flatMap NameEntry.bytes ++ rest)) name pos := by
  induction es with
  | nil => exact fun pre rest h => by cases h
  | cons e es ih =>
    intro pre rest h
    rw [firstName] at h
    split at h
    · cases h
      refine ⟨by omega, pre ++ e.kind :: packed e.name.length,
        es.flatMap NameEntry.bytes ++ rest, ?_, ?_⟩
      · simp [NameEntry.bytes]
      · simp
    · have hp : (pre ++ e.bytes).length = pre.length + 3 + e.name.length := by
        simp only [NameEntry.bytes, List.length_append, List.length_cons, length_packed]
        omega
      have := ih (pre ++ e.bytes) rest (hp ▸ h)
      rw [hp, List.append_assoc, ← List.append_assoc e.bytes, ← List.flatMap_cons] at this
      exact ⟨by omega, this.2⟩

theorem firstHost_lies {name : List UInt8} {pos : Nat} (xs : List Extension) :
    ∀ pre rest : List UInt8, firstHost pre.length xs = some (name, pos) →
      pre.length ≤ pos ∧ LiesAt (pre ++ (xs.flatMap Extension.bytes ++ rest)) name pos := by
  induction xs with
  | nil => exact fun pre rest h => by cases h
  | cons x xs ih =>
    intro pre rest h
    cases x with
    | names entries fits =>
      have hp : (pre ++ (packed serverNameExtension ++
          (packed (Extension.names entries fits).body.length ++
            packed (entries.flatMap NameEntry.bytes).length))).length = pre.length + 4 + 2 := by
        simp only [List.length_append, length_packed]
      rw [firstHost, ← hp] at h
      obtain ⟨hle, hl⟩ := firstName_lies entries _ (xs.flatMap Extension.bytes ++ rest) h
      rw [hp] at hle
      refine ⟨by omega, ?_⟩
      simpa only [List.flatMap_cons, Extension.bytes, Extension.kind, Extension.body,
        List.append_assoc] using hl
    | other kind body named fits =>
      have hp : (pre ++ (Extension.other kind body named fits).bytes).length =
          pre.length + 4 + body.length := by
        rw [List.length_append, Extension.length_bytes, Extension.body]
        omega
      rw [firstHost, ← hp] at h
      obtain ⟨hle, hl⟩ := ih _ rest h
      rw [hp] at hle
      refine ⟨by omega, ?_⟩
      rwa [List.append_assoc, ← List.append_assoc (Extension.other kind body named fits).bytes,
        ← List.flatMap_cons] at hl

theorem HelloRecord.firstHost_lies {r : HelloRecord} {name : List UInt8} {pos : Nat}
    (h : r.firstHost = some (name, pos)) : recordHeader < pos ∧ LiesAt r.bytes name pos := by
  have hp : (r.lead ++ (r.hello.fields ++
      packed (r.hello.extensions.flatMap Extension.bytes).length)).length =
      r.hello.extensionsAt := by
    simp only [List.length_append, r.length_lead, length_packed, ClientHello.extensionsAt,
      Nat.add_assoc]
  rw [HelloRecord.firstHost, ← hp] at h
  obtain ⟨hle, hl⟩ := Sni.firstHost_lies _ _ r.trailing h
  rw [hp, ClientHello.extensionsAt] at hle
  refine ⟨by omega, ?_⟩
  rw [r.bytes_eq]
  simpa only [ClientHello.fields, ClientHello.vector, List.append_assoc] using hl

namespace TlsRecord

variable (r : TlsRecord)

theorem length_bytes : r.bytes.length = recordHeader + r.payload.length := by
  simp only [bytes, List.length_append, List.length_cons, List.length_nil, length_packed,
    recordHeader]

theorem drop_bytes : r.bytes.drop recordHeader = r.payload := rfl

theorem version_bytes : slice r.bytes 1 3 = [r.version.1, r.version.2] := rfl

def HoldsAt (start pos size : Nat) : Prop :=
  start ≤ pos ∧ pos + size ≤ start + r.payload.length

theorem pack_part (part : List UInt8) (hne : part ≠ []) (hle : part.length ≤ r.payload.length) :
    ∃ p : TlsRecord, packRecord [r.version.1, r.version.2] part = .ok p.bytes ∧
      p.version = r.version ∧ p.payload = part := by
  have hm : part.length ≤ maxHelloBytes := hle.trans r.fits
  refine ⟨⟨r.version, part, hne, hm⟩, ?_, rfl, rfl⟩
  rw [packRecord, if_pos (by rw [maxHelloBytes] at hm; omega)]
  rfl

theorem splitHello_bytes (pos : Nat) (h0 : recordHeader < pos)
    (h1 : pos < recordHeader + r.payload.length) :
    ∃ first second : TlsRecord, splitHello r.bytes pos = .ok (first.bytes ++ second.bytes) ∧
      first.version = r.version ∧ second.version = r.version ∧
      first.payload = r.payload.take (pos - recordHeader) ∧
      second.payload = r.payload.drop (pos - recordHeader) := by
  have ht : (r.payload.take (pos - recordHeader)).length = pos - recordHeader := by
    rw [List.length_take]
    omega
  have hd : (r.payload.drop (pos - recordHeader)).length =
      r.payload.length - (pos - recordHeader) := List.length_drop
  obtain ⟨first, hf, hfv, hfp⟩ := r.pack_part (r.payload.take (pos - recordHeader))
    (List.length_pos_iff.mp (by omega)) (by omega)
  obtain ⟨second, hs, hsv, hsp⟩ := r.pack_part (r.payload.drop (pos - recordHeader))
    (List.length_pos_iff.mp (by omega)) (by omega)
  refine ⟨first, second, ?_, hfv, hsv, hfp, hsp⟩
  rw [splitHello, r.drop_bytes, r.version_bytes]
  simp only [hf, hs]
  exact if_pos (by omega)

end TlsRecord

theorem hello_hidden {zone : String} (hz : 2 ≤ zone.length) (r : HelloRecord)
    {name : List UInt8} {pos : Nat} (hn : r.firstHost = some (name, pos))
    (hs : served zone (hostText name) = true) :
    serverName r.bytes = .ok (hostText name, pos) ∧
      slice r.bytes pos (pos + name.length) = name ∧
      ∃ first second : TlsRecord,
        splitHello r.bytes (cutOf (hostText name) pos) = .ok (first.bytes ++ second.bytes) ∧
        first.version = r.version ∧ second.version = r.version ∧
        first.payload ++ second.payload = r.record.payload ∧
        ¬ first.HoldsAt recordHeader pos name.length ∧
        ¬ second.HoldsAt (recordHeader + first.payload.length) pos name.length := by
  obtain ⟨hpos, hl⟩ := HelloRecord.firstHost_lies hn
  have htwo : 2 ≤ name.length := by
    have := zone_le_of_served hs
    rw [length_hostText] at this
    omega
  have hcut : cutOf (hostText name) pos = pos + name.length / 2 := by
    rw [cutOf, length_hostText]
    omega
  have hle : pos + name.length ≤ recordHeader + r.record.payload.length :=
    r.record.length_bytes ▸ hl.le
  obtain ⟨first, second, hsplit, hfv, hsv, hfp, hsp⟩ :=
    r.record.splitHello_bytes (pos + name.length / 2) (by omega) (by omega)
  have hlen : recordHeader + first.payload.length = pos + name.length / 2 := by
    rw [hfp, List.length_take]
    omega
  refine ⟨?_, hl.slice, first, second, ?_, hfv, hsv, ?_, ?_, ?_⟩
  · rw [r.serverName_bytes, hn]
    rfl
  · rw [hcut]
    exact hsplit
  · rw [hfp, hsp, List.take_append_drop]
  · rintro ⟨_, h⟩
    omega
  · rintro ⟨h, _⟩
    omega

def observerName : List UInt8 :=
  "Observer.Mysterium.network".toList.map fun c => UInt8.ofNat c.toNat

def observerHello : HelloRecord where
  version := (3, 1)
  hello :=
    { version := (3, 3)
      random := List.replicate 32 7
      session := [9, 9, 9, 9]
      suites := [0x13, 0x01, 0x13, 0x02]
      compressions := [0]
      extensions :=
        [.other 43 [2, 3, 4] (by decide) (by decide),
          .names [⟨7, [1, 2], by decide⟩, ⟨0, observerName, by decide⟩] (by decide),
          .other 21 [] (by decide) (by decide)]
      random_length := by decide
      session_fits := by decide
      suites_fits := by decide
      compressions_fits := by decide
      extensions_fits := by decide }
  trailing := []
  fits := by decide

theorem observer_hidden :
    serverName observerHello.bytes = .ok ("observer.mysterium.network", 79) ∧
      slice observerHello.bytes 79 105 = observerName ∧
      ∃ first second : TlsRecord,
        splitHello observerHello.bytes 92 = .ok (first.bytes ++ second.bytes) ∧
        first.version = (3, 1) ∧ second.version = (3, 1) ∧
        first.payload ++ second.payload = observerHello.record.payload ∧
        ¬ first.HoldsAt recordHeader 79 26 ∧
        ¬ second.HoldsAt (recordHeader + first.payload.length) 79 26 := by
  have hz : 2 ≤ defaultZone.length := by decide
  have hn : observerHello.firstHost = some (observerName, 79) := by decide
  have hs : served defaultZone (hostText observerName) = true := by decide
  have ht : hostText observerName = "observer.mysterium.network" := by decide
  have hc : cutOf (hostText observerName) 79 = 92 := by decide
  have := hello_hidden hz observerHello hn hs
  rwa [hc, ht] at this

end VibeDPN.Sni
