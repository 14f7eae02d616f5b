import BearerAuth.Power

/-!
# Secure hashes

The hashes with words of 32 and of 64 bits.  They differ in the width of a word, the number of
rounds, the amounts of the rotations, the state that they start from and the length of the digest;
all else is shared.  The constants of the shorter words are the upper halves of those of the longer
ones.
-/

namespace BearerAuth.Sha2

/-- What tells the hashes apart. -/
structure Variant where
  /-- The bits of a word. -/
  width : Nat
  /-- How often a block is mixed into the state. -/
  rounds : Nat
  /-- Three rotations, for the first word of the state. -/
  sum0 : Nat × Nat × Nat
  /-- Three rotations, for the fifth word of the state. -/
  sum1 : Nat × Nat × Nat
  /-- Two rotations and a shift, for the word fifteen rounds ago. -/
  mix0 : Nat × Nat × Nat
  /-- Two rotations and a shift, for the word two rounds ago. -/
  mix1 : Nat × Nat × Nat
  /-- The eight words of the first state. -/
  initial : List Nat
  /-- The bytes of a digest. -/
  digestBytes : Nat

/-- The constants of the rounds: the first bits behind the point of the cube roots of the primes. -/
def roundConstants : List Nat :=
  [0x428a2f98d728ae22, 0x7137449123ef65cd, 0xb5c0fbcfec4d3b2f, 0xe9b5dba58189dbbc,
    0x3956c25bf348b538, 0x59f111f1b605d019, 0x923f82a4af194f9b, 0xab1c5ed5da6d8118,
    0xd807aa98a3030242, 0x12835b0145706fbe, 0x243185be4ee4b28c, 0x550c7dc3d5ffb4e2,
    0x72be5d74f27b896f, 0x80deb1fe3b1696b1, 0x9bdc06a725c71235, 0xc19bf174cf692694,
    0xe49b69c19ef14ad2, 0xefbe4786384f25e3, 0x0fc19dc68b8cd5b5, 0x240ca1cc77ac9c65,
    0x2de92c6f592b0275, 0x4a7484aa6ea6e483, 0x5cb0a9dcbd41fbd4, 0x76f988da831153b5,
    0x983e5152ee66dfab, 0xa831c66d2db43210, 0xb00327c898fb213f, 0xbf597fc7beef0ee4,
    0xc6e00bf33da88fc2, 0xd5a79147930aa725, 0x06ca6351e003826f, 0x142929670a0e6e70,
    0x27b70a8546d22ffc, 0x2e1b21385c26c926, 0x4d2c6dfc5ac42aed, 0x53380d139d95b3df,
    0x650a73548baf63de, 0x766a0abb3c77b2a8, 0x81c2c92e47edaee6, 0x92722c851482353b,
    0xa2bfe8a14cf10364, 0xa81a664bbc423001, 0xc24b8b70d0f89791, 0xc76c51a30654be30,
    0xd192e819d6ef5218, 0xd69906245565a910, 0xf40e35855771202a, 0x106aa07032bbd1b8,
    0x19a4c116b8d2d0c8, 0x1e376c085141ab53, 0x2748774cdf8eeb99, 0x34b0bcb5e19b48a8,
    0x391c0cb3c5c95a63, 0x4ed8aa4ae3418acb, 0x5b9cca4f7763e373, 0x682e6ff3d6b2b8a3,
    0x748f82ee5defb2fc, 0x78a5636f43172f60, 0x84c87814a1f0ab72, 0x8cc702081a6439ec,
    0x90befffa23631e28, 0xa4506cebde82bde9, 0xbef9a3f7b2c67915, 0xc67178f2e372532b,
    0xca273eceea26619c, 0xd186b8c721c0c207, 0xeada7dd6cde0eb1e, 0xf57d4f7fee6ed178,
    0x06f067aa72176fba, 0x0a637dc5a2c898a6, 0x113f9804bef90dae, 0x1b710b35131c471b,
    0x28db77f523047d84, 0x32caab7b40c72493, 0x3c9ebe0a15c9bebc, 0x431d67c49c100d4c,
    0x4cc5d4becb3e42b6, 0x597f299cfc657e2a, 0x5fcb6fab3ad6faec, 0x6c44198c4a475817]

/-- The first bits behind the point of the square roots of the primes. -/
def rootConstants : List Nat :=
  [0x6a09e667f3bcc908, 0xbb67ae8584caa73b, 0x3c6ef372fe94f82b, 0xa54ff53a5f1d36f1,
    0x510e527fade682d1, 0x9b05688c2b3e6c1f, 0x1f83d9abfb41bd6b, 0x5be0cd19137e2179,
    0xcbbb9d5dc1059ed8, 0x629a292a367cd507, 0x9159015a3070dd17, 0x152fecd8f70e5939,
    0x67332667ffc00b31, 0x8eb44a8768581511, 0xdb0c2e0d64f98fa7, 0x47b5481dbefa4fa4]

/-- The hash with 256 bits. -/
def sha256 : Variant where
  width := 32
  rounds := 64
  sum0 := (2, 13, 22)
  sum1 := (6, 11, 25)
  mix0 := (7, 18, 3)
  mix1 := (17, 19, 10)
  initial := (rootConstants.take 8).map (· / 2 ^ 32)
  digestBytes := 32

/-- The hash with 512 bits. -/
def sha512 : Variant where
  width := 64
  rounds := 80
  sum0 := (28, 34, 39)
  sum1 := (14, 18, 41)
  mix0 := (1, 8, 7)
  mix1 := (19, 61, 6)
  initial := rootConstants.take 8
  digestBytes := 64

/-- The hash with 384 bits: a shorter digest, from another state. -/
def sha384 : Variant :=
  { sha512 with initial := rootConstants.drop 8, digestBytes := 48 }

namespace Variant

/-- The bytes of a block, which has sixteen words. -/
def blockBytes (v : Variant) : Nat := 2 * v.width

end Variant

/-! ## Bytes and words -/

/-- The number that bytes spell, the first the most significant. -/
def natOfBytes (l : List UInt8) : Nat := l.foldl (fun n b ↦ n * 256 + b.toNat) 0

/-- The last `count` bytes of a number, the first the most significant. -/
def bytesOfNat : (count : Nat) → Nat → List UInt8
  | 0, _ => []
  | count + 1, n => UInt8.ofNat (n / 256 ^ count % 256) :: bytesOfNat count n

/-- There are as many bytes as asked for. -/
theorem length_bytesOfNat (count n : Nat) : (bytesOfNat count n).length = count := by
  induction count with
  | zero => rfl
  | succ count ih => rw [bytesOfNat, List.length_cons, ih]

/-- A list cut into `count` pieces of `size` items. -/
def pieces {α : Type} (size : Nat) : (count : Nat) → List α → List (List α)
  | 0, _ => []
  | count + 1, l => l.take size :: pieces size count (l.drop size)

/-- The message with a one bit, zeros and its length in bits behind it: a whole number of blocks. -/
def pad (v : Variant) (message : List UInt8) : List UInt8 :=
  let tail := v.width / 4
  let zeros := (2 * v.blockBytes - (message.length + 1 + tail) % v.blockBytes) % v.blockBytes
  message ++ 0x80 :: List.replicate zeros 0 ++ bytesOfNat tail (8 * message.length)

/-! ## Rounds -/

/-- The state of a hash. -/
structure State (w : Nat) where
  /-- First word. -/
  a : BitVec w
  /-- Second word. -/
  b : BitVec w
  /-- Third word. -/
  c : BitVec w
  /-- Fourth word. -/
  d : BitVec w
  /-- Fifth word. -/
  e : BitVec w
  /-- Sixth word. -/
  f : BitVec w
  /-- Seventh word. -/
  g : BitVec w
  /-- Eighth word. -/
  h : BitVec w

/-- The state of eight words. -/
def State.ofList {w : Nat} : List (BitVec w) → State w
  | [a, b, c, d, e, f, g, h] => ⟨a, b, c, d, e, f, g, h⟩
  | _ => ⟨0, 0, 0, 0, 0, 0, 0, 0⟩

/-- The words of a state. -/
def State.toList {w : Nat} (s : State w) : List (BitVec w) :=
  [s.a, s.b, s.c, s.d, s.e, s.f, s.g, s.h]

/-- Three rotations of a word, combined. -/
def sum {w : Nat} (r : Nat × Nat × Nat) (x : BitVec w) : BitVec w :=
  x.rotateRight r.1 ^^^ x.rotateRight r.2.1 ^^^ x.rotateRight r.2.2

/-- Two rotations and a shift of a word, combined. -/
def mix {w : Nat} (r : Nat × Nat × Nat) (x : BitVec w) : BitVec w :=
  x.rotateRight r.1 ^^^ x.rotateRight r.2.1 ^^^ (x >>> r.2.2)

/-- One round, with a constant and a word of the block. -/
def round (v : Variant) (s : State v.width) (k x : BitVec v.width) : State v.width :=
  let choice := (s.e &&& s.f) ^^^ (~~~s.e &&& s.g)
  let majority := (s.a &&& s.b) ^^^ (s.a &&& s.c) ^^^ (s.b &&& s.c)
  let t := s.h + sum v.sum1 s.e + choice + k + x
  { a := t + sum v.sum0 s.a + majority
    b := s.a
    c := s.b
    d := s.c
    e := s.d + t
    f := s.e
    g := s.f
    h := s.g }

/-- The words of a block followed by `more` words computed from the sixteen before each; all in
reverse order. -/
def extend (v : Variant) : (more : Nat) → List (BitVec v.width) → List (BitVec v.width)
  | 0, l => l
  | more + 1, l =>
    let back (n : Nat) := l.getD (n - 1) 0
    extend v more ((mix v.mix1 (back 2) + back 7 + mix v.mix0 (back 15) + back 16) :: l)

/-- The state after a block. -/
def compress (v : Variant) (constants : List (BitVec v.width)) (s : State v.width)
    (block : List UInt8) : State v.width :=
  let words := (pieces (v.width / 8) 16 block).map fun p ↦ BitVec.ofNat v.width (natOfBytes p)
  let schedule := (extend v (v.rounds - 16) words.reverse).reverse
  let t := (constants.zip schedule).foldl (fun s p ↦ round v s p.1 p.2) s
  State.ofList (List.zipWith (· + ·) s.toList t.toList)

/-- The digest of a message. -/
def digest (v : Variant) (message : List UInt8) : List UInt8 :=
  let padded := pad v message
  let constants := (roundConstants.take v.rounds).map fun n ↦
    BitVec.ofNat v.width (n / 2 ^ (64 - v.width))
  let start := State.ofList (v.initial.map (BitVec.ofNat v.width))
  let blocks := pieces v.blockBytes (padded.length / v.blockBytes) padded
  let final := blocks.foldl (compress v constants) start
  (final.toList.flatMap fun x ↦ bytesOfNat (v.width / 8) x.toNat).take v.digestBytes

/-- A digest has the bytes of its hash, as far as the eight words of a state have so many. -/
theorem length_digest (v : Variant) (message : List UInt8) :
    (digest v message).length = min v.digestBytes (8 * (v.width / 8)) := by
  simp only [digest, State.toList, List.flatMap_cons, List.flatMap_nil, List.length_take,
    List.length_append, length_bytesOfNat, List.length_nil]
  omega

/-! ## Keyed hashes -/

/-- The keyed hash of a message.  A key longer than a block is hashed first. -/
def hmac (v : Variant) (key message : List UInt8) : List UInt8 :=
  let key := if v.blockBytes < key.length then digest v key else key
  let key := key ++ List.replicate (v.blockBytes - key.length) 0
  let inner := digest v (key.map (· ^^^ 0x36) ++ message)
  digest v (key.map (· ^^^ 0x5c) ++ inner)

end BearerAuth.Sha2
