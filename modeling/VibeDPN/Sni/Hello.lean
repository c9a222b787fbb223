import VibeDPN.Lib.Bytes
import VibeDPN.Lib.Lines

namespace VibeDPN.Sni

open Bytes

inductive Fault
  | relay (text : String)
  | timeout
  | connection (text : String)
  | os (text : String)
  | incomplete (got expected : Nat)
  | unicode
  | value
  | index
  | struct
  | overflow
  deriving DecidableEq, Repr

def recordHeader : Nat := 5

def handshakeRecord : UInt8 := 0x16

def clientHello : UInt8 := 0x01

def serverNameExtension : Nat := 0x00

def hostNameType : UInt8 := 0x00

def randomBytes : Nat := 32

def maxHelloBytes : Nat := 16 * 1024

def u16 (data : List UInt8) (pos : Nat) : Except Fault Nat :=
  match data.drop pos with
  | a :: b :: _ => .ok (wide a b)
  | _ => .error (.relay "the TLS record ends in the middle of a length")

def decodeByte (b : UInt8) : Char := if b < 128 then Char.ofNat b.toNat else '\ufffd'

def hostText (name : List UInt8) : String := Text.lower (String.ofList (name.map decodeByte))

def pastBlock (hello : List UInt8) (pos : Nat) : Nat :=
  match hello[pos]? with
  | some size => pos + (1 + size.toNat)
  | none => pos

def nameWalk (hello : List UInt8) (stop entry : Nat) : Except Fault (Option (String × Nat)) :=
  if entry + 3 ≤ stop then
    match _h : hello[entry]? with
    | none => .error .index
    | some nameType => do
      let length ← u16 hello (entry + 1)
      let start := entry + 3
      if nameType = hostNameType then
        return some (hostText (slice hello start (start + length)), start)
      else
        nameWalk hello stop (start + length)
  else
    .ok none
termination_by hello.length - entry
decreasing_by
  have := (List.getElem?_eq_some_iff.mp _h).1
  omega

def extensionWalk (hello : List UInt8) (stop pos : Nat) : Except Fault (Option (String × Nat)) :=
  if _h : pos + 4 ≤ min stop hello.length then do
    let kind ← u16 hello pos
    let size ← u16 hello (pos + 2)
    if kind ≠ serverNameExtension then
      extensionWalk hello stop (pos + 4 + size)
    else
      nameWalk hello (pos + 4 + size) (pos + 4 + 2)
  else
    .ok none
termination_by hello.length - pos
decreasing_by omega

def serverName (hello : List UInt8) : Except Fault (String × Nat) :=
  if hello.length < recordHeader ∨ hello[0]? ≠ some handshakeRecord then
    .error (.relay "not a TLS handshake record")
  else if hello[recordHeader]? ≠ some clientHello then
    .error (.relay "the first record is not a ClientHello")
  else do
    let suites := pastBlock hello (recordHeader + (4 + 2 + randomBytes))
    let compressions := suites + (2 + (← u16 hello suites))
    let extensions := pastBlock hello compressions
    let stop := extensions + 2 + (← u16 hello extensions)
    match ← extensionWalk hello stop (extensions + 2) with
    | some found => return found
    | none => .error (.relay "the ClientHello names no server")

def packRecord (version part : List UInt8) : Except Fault (List UInt8) :=
  if part.length < 65536 then
    .ok (handshakeRecord :: version ++ packed part.length ++ part)
  else
    .error .struct

def splitHello (hello : List UInt8) (pos : Nat) : Except Fault (List UInt8) :=
  let version := slice hello 1 3
  let payload := hello.drop recordHeader
  let cut := pos - recordHeader
  if 0 < cut ∧ cut < payload.length then do
    let first ← packRecord version (payload.take cut)
    let second ← packRecord version (payload.drop cut)
    return first ++ second
  else
    .error (.relay "the cut is outside the ClientHello")

def cutOf (host : String) (pos : Nat) : Nat := pos + max 1 (host.length / 2)

@[simp] theorem length_hostText (name : List UInt8) : (hostText name).length = name.length := by
  simp [hostText, Text.lower]

theorem u16_append {n : Nat} (h : n < 65536) (pre rest : List UInt8) :
    u16 (pre ++ (packed n ++ rest)) pre.length = .ok n := by
  rw [u16, List.drop_left]
  simp only [packed, List.cons_append, wide_packed h]

theorem u16_of_lt {data : List UInt8} {pos : Nat} (h : pos + 2 ≤ data.length) :
    ∃ n < 65536, u16 data pos = .ok n := by
  have hd : 2 ≤ (data.drop pos).length := by
    rw [List.length_drop]
    omega
  rw [u16]
  match data.drop pos, hd with
  | a :: b :: rest, _ =>
    refine ⟨wide a b, ?_, rfl⟩
    have := a.toNat_lt
    have := b.toNat_lt
    rw [wide]
    omega

theorem u16_of_le {data : List UInt8} {pos : Nat} (h : data.length < pos + 2) :
    u16 data pos = .error (.relay "the TLS record ends in the middle of a length") := by
  have hd : (data.drop pos).length < 2 := by
    rw [List.length_drop]
    omega
  rw [u16]
  match data.drop pos, hd with
  | [], _ => rfl
  | [_], _ => rfl

theorem pastBlock_append (pre block rest : List UInt8) (h : block.length < 256) :
    pastBlock (pre ++ (UInt8.ofNat block.length :: block ++ rest)) pre.length =
      pre.length + (1 + block.length) := by
  rw [pastBlock, List.getElem?_append_right (le_refl _), Nat.sub_self, List.cons_append,
    List.getElem?_cons_zero]
  simp only [UInt8.toNat_ofNat', Nat.mod_eq_of_lt h]

end VibeDPN.Sni
