import VibeDPN.Sni.Hello

namespace VibeDPN.Sni

open Bytes

structure NameEntry where
  kind : UInt8
  name : List UInt8
  fits : name.length < 65536

def NameEntry.bytes (e : NameEntry) : List UInt8 := e.kind :: (packed e.name.length ++ e.name)

inductive Extension
  | names (entries : List NameEntry) (fits : (entries.flatMap NameEntry.bytes).length + 2 < 65536)
  | other (kind : UInt16) (body : List UInt8) (named : kind ≠ 0) (fits : body.length < 65536)

namespace Extension

def kind : Extension → Nat
  | names _ _ => serverNameExtension
  | other kind _ _ _ => kind.toNat

def body : Extension → List UInt8
  | names entries _ =>
    packed (entries.flatMap NameEntry.bytes).length ++ entries.flatMap NameEntry.bytes
  | other _ body _ _ => body

def bytes (x : Extension) : List UInt8 := packed x.kind ++ (packed x.body.length ++ x.body)

theorem kind_lt (x : Extension) : x.kind < 65536 := by
  cases x with
  | names entries fits => exact Nat.zero_lt_succ _
  | other kind body named fits => exact kind.toNat_lt

theorem body_lt (x : Extension) : x.body.length < 65536 := by
  cases x with
  | names entries fits =>
    simp only [body, List.length_append, length_packed]
    omega
  | other kind body named fits => exact fits

theorem length_bytes (x : Extension) : x.bytes.length = 4 + x.body.length := by
  simp only [bytes, List.length_append, length_packed]
  omega

end Extension

structure ClientHello where
  version : UInt8 × UInt8
  random : List UInt8
  session : List UInt8
  suites : List UInt8
  compressions : List UInt8
  extensions : List Extension
  random_length : random.length = randomBytes
  session_fits : session.length < 256
  suites_fits : suites.length < 65536
  compressions_fits : compressions.length < 256
  extensions_fits : (extensions.flatMap Extension.bytes).length < 65536

structure TlsRecord where
  version : UInt8 × UInt8
  payload : List UInt8
  filled : payload ≠ []
  fits : payload.length ≤ maxHelloBytes

def TlsRecord.bytes (r : TlsRecord) : List UInt8 :=
  handshakeRecord :: [r.version.1, r.version.2] ++ packed r.payload.length ++ r.payload

namespace ClientHello

variable (c : ClientHello)

def opening : List UInt8 := c.version.1 :: c.version.2 :: c.random

def block (l : List UInt8) : List UInt8 := UInt8.ofNat l.length :: l

def vector (l : List UInt8) : List UInt8 := packed l.length ++ l

def fields : List UInt8 := block c.session ++ (vector c.suites ++ block c.compressions)

def body : List UInt8 := c.opening ++ (c.fields ++ vector (c.extensions.flatMap Extension.bytes))

def header : List UInt8 :=
  [clientHello, UInt8.ofNat (c.body.length / 65536), UInt8.ofNat (c.body.length / 256),
    UInt8.ofNat c.body.length]

def bytes : List UInt8 := c.header ++ c.body

def extensionsAt : Nat := recordHeader + (4 + 2 + randomBytes) + c.fields.length + 2

end ClientHello

structure HelloRecord where
  version : UInt8 × UInt8
  hello : ClientHello
  trailing : List UInt8
  fits : (hello.bytes ++ trailing).length ≤ maxHelloBytes

namespace HelloRecord

def record (r : HelloRecord) : TlsRecord where
  version := r.version
  payload := r.hello.bytes ++ r.trailing
  filled := by simp [ClientHello.bytes, ClientHello.header]
  fits := r.fits

def bytes (r : HelloRecord) : List UInt8 := r.record.bytes

end HelloRecord

def firstName (pos : Nat) : List NameEntry → Option (List UInt8 × Nat)
  | [] => none
  | e :: es =>
    if e.kind = hostNameType then some (e.name, pos + 3) else firstName (pos + 3 + e.name.length) es

def firstHost (pos : Nat) : List Extension → Option (List UInt8 × Nat)
  | [] => none
  | .names entries _ :: _ => firstName (pos + 4 + 2) entries
  | .other _ body _ _ :: xs => firstHost (pos + 4 + body.length) xs

def HelloRecord.firstHost (r : HelloRecord) : Option (List UInt8 × Nat) :=
  Sni.firstHost r.hello.extensionsAt r.hello.extensions

def Found (found : Option (List UInt8 × Nat)) : Option (String × Nat) :=
  found.map fun n => (hostText n.1, n.2)

theorem nameWalk_entries (es : List NameEntry) :
    ∀ pre rest : List UInt8,
      nameWalk (pre ++ (es.flatMap NameEntry.bytes ++ rest))
          (pre.length + (es.flatMap NameEntry.bytes).length) pre.length =
        .ok (Found (firstName pre.length es)) := by
  induction es with
  | nil =>
    intro pre rest
    rw [nameWalk, if_neg (by simp)]
    rfl
  | cons e es ih =>
    intro pre rest
    have hb : (e :: es).flatMap NameEntry.bytes =
        e.kind :: (packed e.name.length ++ (e.name ++ es.flatMap NameEntry.bytes)) := by
      simp [NameEntry.bytes]
    have hk : (pre ++ ((e :: es).flatMap NameEntry.bytes ++ rest))[pre.length]? = some e.kind := by
      simp [hb]
    have hu : u16 (pre ++ ((e :: es).flatMap NameEntry.bytes ++ rest)) (pre.length + 1) =
        .ok e.name.length := by
      have := u16_append e.fits (pre ++ [e.kind]) (e.name ++ es.flatMap NameEntry.bytes ++ rest)
      simpa [hb] using this
    have hs : slice (pre ++ ((e :: es).flatMap NameEntry.bytes ++ rest)) (pre.length + 3)
        (pre.length + 3 + e.name.length) = e.name := by
      have := slice_append (pre ++ e.kind :: packed e.name.length) e.name
        (es.flatMap NameEntry.bytes ++ rest)
      simpa [hb, Nat.add_assoc] using this
    have hl : ((e :: es).flatMap NameEntry.bytes).length =
        3 + e.name.length + (es.flatMap NameEntry.bytes).length := by
      simp only [hb, List.length_cons, List.length_append, length_packed]
      omega
    rw [nameWalk, if_pos (by omega)]
    split
    · rename_i h
      rw [hk] at h
      cases h
    · rename_i nameType h
      rw [hk] at h
      cases h
      rw [hu]
      simp only [bind, Except.bind, firstName]
      split
      · rw [hs]
        rfl
      · have := ih (pre ++ e.bytes) rest
        have hp : (pre ++ e.bytes).length = pre.length + 3 + e.name.length := by
          simp only [NameEntry.bytes, List.length_append, List.length_cons, length_packed]
          omega
        rw [hp, List.append_assoc] at this
        rw [← this, hl, List.flatMap_cons, List.append_assoc]
        congr 1
        omega

theorem extensionWalk_names (xs : List Extension) :
    ∀ pre rest : List UInt8,
      extensionWalk (pre ++ (xs.flatMap Extension.bytes ++ rest))
          (pre.length + (xs.flatMap Extension.bytes).length) pre.length =
        .ok (Found (firstHost pre.length xs)) := by
  induction xs with
  | nil =>
    intro pre rest
    rw [extensionWalk, dif_neg (by simp)]
    rfl
  | cons x xs ih =>
    intro pre rest
    have hb : pre ++ ((x :: xs).flatMap Extension.bytes ++ rest) =
        pre ++ (packed x.kind ++ (packed x.body.length ++ (x.body ++
          (xs.flatMap Extension.bytes ++ rest)))) := by
      simp [Extension.bytes]
    have hk : u16 (pre ++ ((x :: xs).flatMap Extension.bytes ++ rest)) pre.length = .ok x.kind := by
      rw [hb]
      exact u16_append x.kind_lt pre _
    have hs : u16 (pre ++ ((x :: xs).flatMap Extension.bytes ++ rest)) (pre.length + 2) =
        .ok x.body.length := by
      have := u16_append x.body_lt (pre ++ packed x.kind)
        (x.body ++ (xs.flatMap Extension.bytes ++ rest))
      rwa [List.append_assoc, List.length_append, length_packed, ← hb] at this
    have hl : ((x :: xs).flatMap Extension.bytes).length =
        4 + x.body.length + (xs.flatMap Extension.bytes).length := by
      rw [List.flatMap_cons, List.length_append, x.length_bytes]
    rw [extensionWalk, dif_pos (by
      rw [List.length_append, List.length_append, hl]
      omega), hk, hs]
    simp only [bind, Except.bind]
    cases x with
    | names entries fits =>
      rw [if_neg (by simp [Extension.kind])]
      have hn := nameWalk_entries entries
        (pre ++ (packed serverNameExtension ++ (packed (Extension.names entries fits).body.length ++
          packed (entries.flatMap NameEntry.bytes).length)))
        (xs.flatMap Extension.bytes ++ rest)
      have hp : (pre ++ (packed serverNameExtension ++
          (packed (Extension.names entries fits).body.length ++
            packed (entries.flatMap NameEntry.bytes).length))).length = pre.length + 4 + 2 := by
        simp only [List.length_append, length_packed]
      have hstop : pre.length + 4 + 2 + (entries.flatMap NameEntry.bytes).length =
          pre.length + 4 + (Extension.names entries fits).body.length := by
        simp only [Extension.body, List.length_append, length_packed]
        omega
      rw [hp, hstop] at hn
      rw [firstHost, ← hn, hb]
      simp only [Extension.kind, Extension.body, List.append_assoc]
    | other kind body named fits =>
      have hz : kind.toNat ≠ serverNameExtension := by
        intro h
        exact named (UInt16.toNat_inj.mp h)
      have hx : (Extension.other kind body named fits).kind ≠ serverNameExtension := hz
      have := ih (pre ++ (Extension.other kind body named fits).bytes) rest
      rw [List.length_append, Extension.length_bytes, List.append_assoc] at this
      rw [if_pos hx, hl, List.flatMap_cons, List.append_assoc, firstHost]
      simp only [Extension.body, Nat.add_assoc] at this ⊢
      exact this

end VibeDPN.Sni
