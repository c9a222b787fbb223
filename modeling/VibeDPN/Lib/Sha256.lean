import Mathlib

namespace VibeDPN.Sha256

abbrev Word := BitVec 32

def constants : List Word := [
  0x428a2f98, 0x71374491, 0xb5c0fbcf, 0xe9b5dba5, 0x3956c25b, 0x59f111f1, 0x923f82a4, 0xab1c5ed5,
  0xd807aa98, 0x12835b01, 0x243185be, 0x550c7dc3, 0x72be5d74, 0x80deb1fe, 0x9bdc06a7, 0xc19bf174,
  0xe49b69c1, 0xefbe4786, 0x0fc19dc6, 0x240ca1cc, 0x2de92c6f, 0x4a7484aa, 0x5cb0a9dc, 0x76f988da,
  0x983e5152, 0xa831c66d, 0xb00327c8, 0xbf597fc7, 0xc6e00bf3, 0xd5a79147, 0x06ca6351, 0x14292967,
  0x27b70a85, 0x2e1b2138, 0x4d2c6dfc, 0x53380d13, 0x650a7354, 0x766a0abb, 0x81c2c92e, 0x92722c85,
  0xa2bfe8a1, 0xa81a664b, 0xc24b8b70, 0xc76c51a3, 0xd192e819, 0xd6990624, 0xf40e3585, 0x106aa070,
  0x19a4c116, 0x1e376c08, 0x2748774c, 0x34b0bcb5, 0x391c0cb3, 0x4ed8aa4a, 0x5b9cca4f, 0x682e6ff3,
  0x748f82ee, 0x78a5636f, 0x84c87814, 0x8cc70208, 0x90befffa, 0xa4506ceb, 0xbef9a3f7, 0xc67178f2]

structure State where
  a : Word
  b : Word
  c : Word
  d : Word
  e : Word
  f : Word
  g : Word
  h : Word
deriving DecidableEq

def initial : State where
  a := 0x6a09e667
  b := 0xbb67ae85
  c := 0x3c6ef372
  d := 0xa54ff53a
  e := 0x510e527f
  f := 0x9b05688c
  g := 0x1f83d9ab
  h := 0x5be0cd19

def choose (x y z : Word) : Word := (x &&& y) ^^^ (~~~x &&& z)

def majority (x y z : Word) : Word := (x &&& y) ^^^ (x &&& z) ^^^ (y &&& z)

def mix (i j k : Nat) (x : Word) : Word := x.rotateRight i ^^^ x.rotateRight j ^^^ x.rotateRight k

def spread (i j k : Nat) (x : Word) : Word := x.rotateRight i ^^^ x.rotateRight j ^^^ (x >>> k)

def round (s : State) (k w : Word) : State :=
  let t := s.h + mix 6 11 25 s.e + choose s.e s.f s.g + k + w
  { a := t + mix 2 13 22 s.a + majority s.a s.b s.c
    b := s.a
    c := s.b
    d := s.c
    e := s.d + t
    f := s.e
    g := s.f
    h := s.g }

-- window: the next sixteen words of the schedule
def nextWord (window : List Word) : Word :=
  spread 17 19 10 (window.getD 14 0) + window.getD 9 0 + spread 7 18 3 (window.getD 1 0) +
    window.getD 0 0

def rounds : List Word → List Word → State → State
  | k :: ks, w :: window, s =>
    rounds ks (window ++ [nextWord (w :: window)]) (round s k w)
  | _, _, s => s

def State.add (s t : State) : State where
  a := s.a + t.a
  b := s.b + t.b
  c := s.c + t.c
  d := s.d + t.d
  e := s.e + t.e
  f := s.f + t.f
  g := s.g + t.g
  h := s.h + t.h

def compress (s : State) (block : List Word) : State := s.add (rounds constants block s)

def wordsOf : List UInt8 → List Word
  | p :: q :: r :: t :: l =>
    BitVec.ofNat 32 (((p.toNat * 256 + q.toNat) * 256 + r.toNat) * 256 + t.toNat) :: wordsOf l
  | _ => []

def pad (l : List UInt8) : List UInt8 :=
  l ++ 0x80 :: List.replicate ((119 - l.length % 64) % 64) 0 ++
    (List.range 8).map fun i => UInt8.ofNat (8 * l.length / 256 ^ (7 - i))

def digest (l : List UInt8) : State := ((wordsOf (pad l)).toChunks 16).foldl compress initial

def State.words (s : State) : List Word := [s.a, s.b, s.c, s.d, s.e, s.f, s.g, s.h]

def hexDigits (n : Nat) : List Char :=
  (List.range 8).map fun i => Nat.digitChar (n / 16 ^ (7 - i) % 16)

def hexdigest (l : List UInt8) : List Char :=
  (digest l).words.flatMap fun w => hexDigits w.toNat

end VibeDPN.Sha256
