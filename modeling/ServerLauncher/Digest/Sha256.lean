/-!
This module contains the SHA-256 digest of a byte sequence and its hexadecimal form.
-/

namespace ServerLauncher.Sha256

/--
The eight words that the digest is computed in.
-/
structure State where
  a : UInt32
  b : UInt32
  c : UInt32
  d : UInt32
  e : UInt32
  f : UInt32
  g : UInt32
  h : UInt32
deriving DecidableEq, Repr

/--
The words before the first block.
-/
def State.initial : State where
  a := 0x6a09e667
  b := 0xbb67ae85
  c := 0x3c6ef372
  d := 0xa54ff53a
  e := 0x510e527f
  f := 0x9b05688c
  g := 0x1f83d9ab
  h := 0x5be0cd19

/--
One constant for each round.
-/
def roundConstants : List UInt32 :=
  [0x428a2f98, 0x71374491, 0xb5c0fbcf, 0xe9b5dba5, 0x3956c25b, 0x59f111f1, 0x923f82a4, 0xab1c5ed5,
    0xd807aa98, 0x12835b01, 0x243185be, 0x550c7dc3, 0x72be5d74, 0x80deb1fe, 0x9bdc06a7, 0xc19bf174,
    0xe49b69c1, 0xefbe4786, 0x0fc19dc6, 0x240ca1cc, 0x2de92c6f, 0x4a7484aa, 0x5cb0a9dc, 0x76f988da,
    0x983e5152, 0xa831c66d, 0xb00327c8, 0xbf597fc7, 0xc6e00bf3, 0xd5a79147, 0x06ca6351, 0x14292967,
    0x27b70a85, 0x2e1b2138, 0x4d2c6dfc, 0x53380d13, 0x650a7354, 0x766a0abb, 0x81c2c92e, 0x92722c85,
    0xa2bfe8a1, 0xa81a664b, 0xc24b8b70, 0xc76c51a3, 0xd192e819, 0xd6990624, 0xf40e3585, 0x106aa070,
    0x19a4c116, 0x1e376c08, 0x2748774c, 0x34b0bcb5, 0x391c0cb3, 0x4ed8aa4a, 0x5b9cca4f, 0x682e6ff3,
    0x748f82ee, 0x78a5636f, 0x84c87814, 0x8cc70208, 0x90befffa, 0xa4506ceb, 0xbef9a3f7, 0xc67178f2]

def rotateRight (x n : UInt32) : UInt32 :=
  (x >>> n) ||| (x <<< (32 - n))

/--
One round, with the constant and the message word of that round.
-/
def State.round (s : State) (constant word : UInt32) : State :=
  let sum1 := rotateRight s.e 6 ^^^ rotateRight s.e 11 ^^^ rotateRight s.e 25
  let choice := (s.e &&& s.f) ^^^ (~~~s.e &&& s.g)
  let t1 := s.h + sum1 + choice + constant + word
  let sum0 := rotateRight s.a 2 ^^^ rotateRight s.a 13 ^^^ rotateRight s.a 22
  let majority := (s.a &&& s.b) ^^^ (s.a &&& s.c) ^^^ (s.b &&& s.c)
  let t2 := sum0 + majority
  ⟨t1 + t2, s.a, s.b, s.c, s.d + t1, s.e, s.f, s.g⟩

def State.add (s t : State) : State :=
  ⟨s.a + t.a, s.b + t.b, s.c + t.c, s.d + t.d, s.e + t.e, s.f + t.f, s.g + t.g, s.h + t.h⟩

def State.words (s : State) : List UInt32 :=
  [s.a, s.b, s.c, s.d, s.e, s.f, s.g, s.h]

/--
Append `count` further words to the message words, each computed from four earlier ones.
-/
def extend (count : Nat) (words : Array UInt32) : Array UInt32 :=
  match count with
  | 0 => words
  | count + 1 =>
    let back (n : Nat) : UInt32 := words.getD (words.size - n) 0
    let w15 := back 15
    let w2 := back 2
    let s0 := rotateRight w15 7 ^^^ rotateRight w15 18 ^^^ (w15 >>> 3)
    let s1 := rotateRight w2 17 ^^^ rotateRight w2 19 ^^^ (w2 >>> 10)
    extend count (words.push (back 16 + s0 + back 7 + s1))

/--
The words whose bytes, most significant first, are the given ones.
-/
def toWords : List UInt8 → List UInt32
  | a :: b :: c :: d :: rest =>
    ((a.toUInt32 <<< 24) ||| (b.toUInt32 <<< 16) ||| (c.toUInt32 <<< 8) ||| d.toUInt32) ::
      toWords rest
  | _ => []

/--
Take a block of 64 bytes into the state.
-/
def State.absorb (s : State) (block : List UInt8) : State :=
  let words := (extend 48 (toWords block).toArray).toList
  let rounds := roundConstants.zip words
  s.add (rounds.foldl (fun s (constant, word) => s.round constant word) s)

/--
Take the first `count` blocks of some bytes into the state.
-/
def State.absorbAll (s : State) (count : Nat) (bytes : List UInt8) : State :=
  match count with
  | 0 => s
  | count + 1 => (s.absorb (bytes.take 64)).absorbAll count (bytes.drop 64)

/--
The `count` least significant bytes of a number, most significant first.
-/
def bigEndian (count n : Nat) : List UInt8 :=
  match count with
  | 0 => []
  | count + 1 => bigEndian count (n / 256) ++ [UInt8.ofNat (n % 256)]

/--
What is appended to `size` bytes: a one bit, zeros up to eight bytes before the end of a block, and
the number of bits.
-/
def padding (size : Nat) : List UInt8 :=
  0x80 :: (List.replicate ((119 - size % 64) % 64) 0 ++ bigEndian 8 (size * 8))

def hex (bytes : List UInt8) : String :=
  String.ofList (bytes.flatMap fun b => [Nat.digitChar (b.toNat / 16), Nat.digitChar (b.toNat % 16)])

/--
The 32 bytes of the digest.
-/
def digest (bytes : ByteArray) : List UInt8 :=
  let padded := bytes.data.toList ++ padding bytes.size
  let final := State.initial.absorbAll (padded.length / 64) padded
  final.words.flatMap fun word => bigEndian 4 word.toNat

/--
The digest in hexadecimal digits, in lower case.
-/
def hexDigest (bytes : ByteArray) : String :=
  hex (digest bytes)

end ServerLauncher.Sha256
