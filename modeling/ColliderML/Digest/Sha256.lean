/-!
The SHA-256 digest of a byte sequence, as FIPS 180-4 defines it.

The message is padded with a one bit, zeros, and its length in bits as a
64-bit big-endian number, to a whole number of 64-byte blocks. Each block is
read as sixteen big-endian words, extended to a schedule of sixty-four, and
folded into the eight state words by sixty-four rounds; the state after the
last block, written in hexadecimal, is the digest.
-/

namespace ColliderML.Sha256

/-- The round constants: the first 32 bits of the fractional parts of the cube
roots of the first sixty-four primes. -/
def roundConstants : Array UInt32 := #[
  0x428a2f98, 0x71374491, 0xb5c0fbcf, 0xe9b5dba5, 0x3956c25b, 0x59f111f1, 0x923f82a4, 0xab1c5ed5,
  0xd807aa98, 0x12835b01, 0x243185be, 0x550c7dc3, 0x72be5d74, 0x80deb1fe, 0x9bdc06a7, 0xc19bf174,
  0xe49b69c1, 0xefbe4786, 0x0fc19dc6, 0x240ca1cc, 0x2de92c6f, 0x4a7484aa, 0x5cb0a9dc, 0x76f988da,
  0x983e5152, 0xa831c66d, 0xb00327c8, 0xbf597fc7, 0xc6e00bf3, 0xd5a79147, 0x06ca6351, 0x14292967,
  0x27b70a85, 0x2e1b2138, 0x4d2c6dfc, 0x53380d13, 0x650a7354, 0x766a0abb, 0x81c2c92e, 0x92722c85,
  0xa2bfe8a1, 0xa81a664b, 0xc24b8b70, 0xc76c51a3, 0xd192e819, 0xd6990624, 0xf40e3585, 0x106aa070,
  0x19a4c116, 0x1e376c08, 0x2748774c, 0x34b0bcb5, 0x391c0cb3, 0x4ed8aa4a, 0x5b9cca4f, 0x682e6ff3,
  0x748f82ee, 0x78a5636f, 0x84c87814, 0x8cc70208, 0x90befffa, 0xa4506ceb, 0xbef9a3f7, 0xc67178f2]

/-- The initial state: the first 32 bits of the fractional parts of the square
roots of the first eight primes. -/
def initialState : Array UInt32 :=
  #[0x6a09e667, 0xbb67ae85, 0x3c6ef372, 0xa54ff53a, 0x510e527f, 0x9b05688c, 0x1f83d9ab, 0x5be0cd19]

def rotr (x : UInt32) (n : UInt32) : UInt32 := (x >>> n) ||| (x <<< (32 - n))

def ch (x y z : UInt32) : UInt32 := (x &&& y) ^^^ (~~~x &&& z)

def maj (x y z : UInt32) : UInt32 := (x &&& y) ^^^ (x &&& z) ^^^ (y &&& z)

def upperSigma0 (x : UInt32) : UInt32 := rotr x 2 ^^^ rotr x 13 ^^^ rotr x 22

def upperSigma1 (x : UInt32) : UInt32 := rotr x 6 ^^^ rotr x 11 ^^^ rotr x 25

def lowerSigma0 (x : UInt32) : UInt32 := rotr x 7 ^^^ rotr x 18 ^^^ (x >>> 3)

def lowerSigma1 (x : UInt32) : UInt32 := rotr x 17 ^^^ rotr x 19 ^^^ (x >>> 10)

def bigEndian64 (n : Nat) : List UInt8 :=
  (List.range 8).reverse.map (fun k => UInt8.ofNat (n / Nat.pow 2 (8 * k) % 256))

/-- The padded message: the bytes, a one bit, zeros up to 56 bytes past a
multiple of 64, and the length in bits. -/
def pad (msg : List UInt8) : Array UInt8 :=
  let zeros := (119 - msg.length % 64) % 64
  (msg ++ [0x80] ++ List.replicate zeros 0 ++ bigEndian64 (8 * msg.length)).toArray

def wordAt (bytes : Array UInt8) (i : Nat) : UInt32 :=
  let b := fun (k : Nat) => (bytes.getD (i + k) 0).toUInt32
  (b 0 <<< 24) ||| (b 1 <<< 16) ||| (b 2 <<< 8) ||| b 3

def schedule (bytes : Array UInt8) (start : Nat) : Array UInt32 :=
  let first := ((List.range 16).map (fun t => wordAt bytes (start + 4 * t))).toArray
  (List.range 48).foldl (fun w t =>
    let at_ := fun (k : Nat) => w.getD (t + 16 - k) 0
    w.push (lowerSigma1 (at_ 2) + at_ 7 + lowerSigma0 (at_ 15) + at_ 16)) first

/-- The working variables a to h of the rounds. -/
structure Working where
  a : UInt32
  b : UInt32
  c : UInt32
  d : UInt32
  e : UInt32
  f : UInt32
  g : UInt32
  h : UInt32

def round (v : Working) (w k : UInt32) : Working :=
  let t1 := v.h + upperSigma1 v.e + ch v.e v.f v.g + k + w
  let t2 := upperSigma0 v.a + maj v.a v.b v.c
  { a := t1 + t2, b := v.a, c := v.b, d := v.c, e := v.d + t1, f := v.e, g := v.f, h := v.g }

def compress (state : Array UInt32) (bytes : Array UInt8) (start : Nat) : Array UInt32 :=
  let w := schedule bytes start
  let s := fun (i : Nat) => state.getD i 0
  let init : Working := ⟨s 0, s 1, s 2, s 3, s 4, s 5, s 6, s 7⟩
  let v := (List.range 64).foldl (fun v t => round v (w.getD t 0) (roundConstants.getD t 0)) init
  #[s 0 + v.a, s 1 + v.b, s 2 + v.c, s 3 + v.d, s 4 + v.e, s 5 + v.f, s 6 + v.g, s 7 + v.h]

def digestWords (msg : List UInt8) : Array UInt32 :=
  let bytes := pad msg
  (List.range (bytes.size / 64)).foldl (fun st i => compress st bytes (64 * i)) initialState

def wordHex (x : UInt32) : String :=
  let digit := fun (k : Nat) =>
    let d := x.toNat / Nat.pow 16 k % 16
    Char.ofNat (if d < 10 then 48 + d else 87 + d)
  String.ofList ((List.range 8).reverse.map digit)

def hexDigest (s : String) : String :=
  String.join ((digestWords s.toUTF8.toList).toList.map wordHex)

end ColliderML.Sha256
