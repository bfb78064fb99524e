import InterClusterFabric.CoreStatus

/-! Digests and checksums: SHA-256 for authorization digests, CRC-32C for stored frames. -/
namespace InterClusterFabric.CoreHash
open CoreStatus

abbrev Digest := BitVec 256

def Digest.isZero (digest : Digest) : Bool := digest == 0

/-- One table entry of the reflected Castagnoli polynomial. -/
def crc32cEntry (index : UInt32) : UInt32 :=
  (List.range 8).foldl
    (fun crc _ => if crc &&& 1 = 0 then crc >>> 1 else (crc >>> 1) ^^^ 0x82F63B78) index

@[irreducible] def crc32cExtend (seed : UInt32) (data : Bytes) : UInt32 :=
  ~~~(data.foldl (fun crc byte => crc32cEntry ((crc ^^^ byte.toUInt32) &&& 0xFF) ^^^ (crc >>> 8)) (~~~seed))

def crc32c (data : Bytes) : UInt32 := crc32cExtend 0 data

/-- Fractional parts of the cube roots of the first 64 primes, which the source computes once. -/
def sha256K : List UInt32 :=
  [0x428a2f98, 0x71374491, 0xb5c0fbcf, 0xe9b5dba5, 0x3956c25b, 0x59f111f1, 0x923f82a4, 0xab1c5ed5,
   0xd807aa98, 0x12835b01, 0x243185be, 0x550c7dc3, 0x72be5d74, 0x80deb1fe, 0x9bdc06a7, 0xc19bf174,
   0xe49b69c1, 0xefbe4786, 0x0fc19dc6, 0x240ca1cc, 0x2de92c6f, 0x4a7484aa, 0x5cb0a9dc, 0x76f988da,
   0x983e5152, 0xa831c66d, 0xb00327c8, 0xbf597fc7, 0xc6e00bf3, 0xd5a79147, 0x06ca6351, 0x14292967,
   0x27b70a85, 0x2e1b2138, 0x4d2c6dfc, 0x53380d13, 0x650a7354, 0x766a0abb, 0x81c2c92e, 0x92722c85,
   0xa2bfe8a1, 0xa81a664b, 0xc24b8b70, 0xc76c51a3, 0xd192e819, 0xd6990624, 0xf40e3585, 0x106aa070,
   0x19a4c116, 0x1e376c08, 0x2748774c, 0x34b0bcb5, 0x391c0cb3, 0x4ed8aa4a, 0x5b9cca4f, 0x682e6ff3,
   0x748f82ee, 0x78a5636f, 0x84c87814, 0x8cc70208, 0x90befffa, 0xa4506ceb, 0xbef9a3f7, 0xc67178f2]

def rotr (x : UInt32) (n : UInt32) : UInt32 := (x >>> n) ||| (x <<< (32 - n))

/-- The eight working words of the compression function. -/
structure Sha256State where
  (a b c d e f g h : UInt32)

namespace Sha256State

def initial : Sha256State :=
  ⟨0x6a09e667, 0xbb67ae85, 0x3c6ef372, 0xa54ff53a, 0x510e527f, 0x9b05688c, 0x1f83d9ab, 0x5be0cd19⟩

def round (s : Sha256State) (kw : UInt32 × UInt32) : Sha256State :=
  let s1 := rotr s.e 6 ^^^ rotr s.e 11 ^^^ rotr s.e 25
  let ch := (s.e &&& s.f) ^^^ (~~~s.e &&& s.g)
  let temp1 := s.h + s1 + ch + kw.1 + kw.2
  let s0 := rotr s.a 2 ^^^ rotr s.a 13 ^^^ rotr s.a 22
  let maj := (s.a &&& s.b) ^^^ (s.a &&& s.c) ^^^ (s.b &&& s.c)
  ⟨temp1 + (s0 + maj), s.a, s.b, s.c, s.d + temp1, s.e, s.f, s.g⟩

def add (s t : Sha256State) : Sha256State :=
  ⟨s.a + t.a, s.b + t.b, s.c + t.c, s.d + t.d, s.e + t.e, s.f + t.f, s.g + t.g, s.h + t.h⟩

def words (s : Sha256State) : List UInt32 := [s.a, s.b, s.c, s.d, s.e, s.f, s.g, s.h]

end Sha256State

def blockWords : Bytes → List UInt32
  | b0 :: b1 :: b2 :: b3 :: rest =>
    ((b0.toUInt32 <<< 24) ||| (b1.toUInt32 <<< 16) ||| (b2.toUInt32 <<< 8) ||| b3.toUInt32) ::
      blockWords rest
  | _ => []

/-- The message schedule, extended one word at a time from the sixteen words of the block. -/
def schedule (block : Bytes) : List UInt32 :=
  (List.range 48).foldl
    (fun w i =>
      let w15 := w.getD (i + 1) 0
      let w2 := w.getD (i + 14) 0
      let s0 := rotr w15 7 ^^^ rotr w15 18 ^^^ (w15 >>> 3)
      let s1 := rotr w2 17 ^^^ rotr w2 19 ^^^ (w2 >>> 10)
      w ++ [w.getD i 0 + s0 + w.getD (i + 9) 0 + s1])
    (blockWords block)

def compress (state : Sha256State) (block : Bytes) : Sha256State :=
  state.add ((sha256K.zip (schedule block)).foldl Sha256State.round state)

/-- Compresses whole blocks; `count` is the number of them. -/
def compressBlocks : ℕ → Sha256State → Bytes → Sha256State
  | 0, state, _ => state
  | count + 1, state, data => compressBlocks count (compress state (data.take 64)) (data.drop 64)

/-- `0x80`, zeros up to 56 mod 64, then the bit length modulo `2 ^ 64`. -/
def sha256Padded (data : Bytes) : Bytes :=
  let used := data.length % 64
  let pad := if used < 56 then 56 - used else 120 - used
  let bits := data.length * 8 % 2 ^ 64
  data ++ (0x80 :: List.replicate (pad - 1) 0) ++
    (List.range 8).map fun i => UInt8.ofNat (bits / 256 ^ (7 - i))

@[irreducible] def sha256 (data : Bytes) : Digest :=
  let padded := sha256Padded data
  let state := compressBlocks (padded.length / 64) .initial padded
  BitVec.ofNat 256 (state.words.foldl (fun value word => value * 2 ^ 32 + word.toNat) 0)

end InterClusterFabric.CoreHash
