import Nslab.Library.Text

/-! The SHA-256 and BLAKE2s digests of Python's `hashlib`, on lists of bytes. -/

namespace Digest

abbrev Word := BitVec 32

/-- The UTF-8 encoding of a text. -/
def utf8 (text : String) : List Nat := text.toUTF8.toList.map UInt8.toNat

/-- Each byte as two lowercase hexadecimal digits. -/
def hexdigest (bytes : List Nat) : String :=
  String.ofList (bytes.flatMap fun byte => (Text.toBase 16 2 byte).map Nat.digitChar)

theorem length_hexdigest (bytes : List Nat) : (hexdigest bytes).toList.length = 2 * bytes.length := by
  rw [hexdigest, String.toList_ofList]
  induction bytes with
  | nil => rfl
  | cons byte bytes ih => simp [ih, Nat.mul_add, Nat.add_comm]

/-- Consecutive runs of `size` elements. -/
def chunks {α : Type} (size count : Nat) (items : List α) : List (List α) :=
  (List.range count).map fun index => (items.drop (index * size)).take size

def wordAt (words : List Word) (index : Nat) : Word := words.getD index 0

section Sha256

def sha256Initial : List Word :=
  [0x6a09e667, 0xbb67ae85, 0x3c6ef372, 0xa54ff53a, 0x510e527f, 0x9b05688c, 0x1f83d9ab, 0x5be0cd19]

def sha256Rounds : List Word :=
  [0x428a2f98, 0x71374491, 0xb5c0fbcf, 0xe9b5dba5, 0x3956c25b, 0x59f111f1, 0x923f82a4, 0xab1c5ed5,
   0xd807aa98, 0x12835b01, 0x243185be, 0x550c7dc3, 0x72be5d74, 0x80deb1fe, 0x9bdc06a7, 0xc19bf174,
   0xe49b69c1, 0xefbe4786, 0x0fc19dc6, 0x240ca1cc, 0x2de92c6f, 0x4a7484aa, 0x5cb0a9dc, 0x76f988da,
   0x983e5152, 0xa831c66d, 0xb00327c8, 0xbf597fc7, 0xc6e00bf3, 0xd5a79147, 0x06ca6351, 0x14292967,
   0x27b70a85, 0x2e1b2138, 0x4d2c6dfc, 0x53380d13, 0x650a7354, 0x766a0abb, 0x81c2c92e, 0x92722c85,
   0xa2bfe8a1, 0xa81a664b, 0xc24b8b70, 0xc76c51a3, 0xd192e819, 0xd6990624, 0xf40e3585, 0x106aa070,
   0x19a4c116, 0x1e376c08, 0x2748774c, 0x34b0bcb5, 0x391c0cb3, 0x4ed8aa4a, 0x5b9cca4f, 0x682e6ff3,
   0x748f82ee, 0x78a5636f, 0x84c87814, 0x8cc70208, 0x90befffa, 0xa4506ceb, 0xbef9a3f7, 0xc67178f2]

/-- One byte of ones, zeros up to a whole block, and the length in bits. -/
def sha256Pad (message : List Nat) : List Nat :=
  message ++ 0x80 :: List.replicate ((119 - message.length % 64) % 64) 0 ++
    Text.toBase 256 8 (8 * message.length)

def sha256Schedule (block : List Word) : List Word :=
  (List.range 48).foldl (fun words index =>
    let early := wordAt words (index + 1)
    let late := wordAt words (index + 14)
    let spread0 := early.rotateRight 7 ^^^ early.rotateRight 18 ^^^ early >>> 3
    let spread1 := late.rotateRight 17 ^^^ late.rotateRight 19 ^^^ late >>> 10
    words ++ [wordAt words index + spread0 + wordAt words (index + 9) + spread1]) block

def sha256Round (state : List Word) (round : Word × Word) : List Word :=
  match state with
  | [a, b, c, d, e, f, g, h] =>
    let choice := (e &&& f) ^^^ (~~~e &&& g)
    let majority := (a &&& b) ^^^ (a &&& c) ^^^ (b &&& c)
    let first := h + (e.rotateRight 6 ^^^ e.rotateRight 11 ^^^ e.rotateRight 25) + choice + round.1 + round.2
    let second := (a.rotateRight 2 ^^^ a.rotateRight 13 ^^^ a.rotateRight 22) + majority
    [first + second, a, b, c, d + first, e, f, g]
  | other => other

def sha256Block (state : List Word) (block : List Nat) : List Word :=
  let words := (chunks 4 16 block).map fun bytes => BitVec.ofNat 32 (Text.ofBase 256 bytes)
  List.zipWith (· + ·) state ((List.zip sha256Rounds (sha256Schedule words)).foldl sha256Round state)

def sha256 (message : List Nat) : List Nat :=
  let padded := sha256Pad message
  ((chunks 64 (padded.length / 64) padded).foldl sha256Block sha256Initial).flatMap fun word =>
    Text.toBase 256 4 word.toNat

example : hexdigest (sha256 (utf8 "abc")) = "ba7816bf8f01cfea414140de5dae2223b00361a396177a9cb410ff61f20015ad" := by
  decide +kernel

end Sha256

section Blake2s

def blake2sOrder : List (List Nat) :=
  [[0, 1, 2, 3, 4, 5, 6, 7, 8, 9, 10, 11, 12, 13, 14, 15], [14, 10, 4, 8, 9, 15, 13, 6, 1, 12, 0, 2, 11, 7, 5, 3],
   [11, 8, 12, 0, 5, 2, 15, 13, 10, 14, 3, 6, 7, 1, 9, 4], [7, 9, 3, 1, 13, 12, 11, 14, 2, 6, 5, 10, 4, 0, 15, 8],
   [9, 0, 5, 7, 2, 4, 10, 15, 14, 1, 11, 12, 6, 8, 3, 13], [2, 12, 6, 10, 0, 11, 8, 3, 4, 13, 7, 5, 15, 14, 1, 9],
   [12, 5, 1, 15, 14, 13, 4, 10, 0, 7, 6, 3, 9, 2, 8, 11], [13, 11, 7, 14, 12, 1, 3, 9, 5, 0, 15, 4, 8, 6, 2, 10],
   [6, 15, 14, 9, 11, 3, 0, 8, 12, 2, 13, 7, 1, 4, 10, 5], [10, 2, 8, 4, 7, 6, 1, 5, 15, 11, 9, 14, 3, 12, 13, 0]]

/-- The four columns and the four diagonals that a round mixes. -/
def blake2sLanes : List (List Nat) :=
  [[0, 4, 8, 12], [1, 5, 9, 13], [2, 6, 10, 14], [3, 7, 11, 15],
   [0, 5, 10, 15], [1, 6, 11, 12], [2, 7, 8, 13], [3, 4, 9, 14]]

def blake2sMix (state : List Word) (lane : List Nat) (first second : Word) : List Word :=
  match lane with
  | [a, b, c, d] =>
    let a1 := wordAt state a + wordAt state b + first
    let d1 := (wordAt state d ^^^ a1).rotateRight 16
    let c1 := wordAt state c + d1
    let b1 := (wordAt state b ^^^ c1).rotateRight 12
    let a2 := a1 + b1 + second
    let d2 := (d1 ^^^ a2).rotateRight 8
    let c2 := c1 + d2
    let b2 := (b1 ^^^ c2).rotateRight 7
    (((state.set a a2).set b b2).set c c2).set d d2
  | _ => state

def blake2sRound (message : List Word) (state : List Word) (order : List Nat) : List Word :=
  (List.zip blake2sLanes (chunks 2 8 order)).foldl (fun state (lane, pair) =>
    blake2sMix state lane (wordAt message (pair.getD 0 0)) (wordAt message (pair.getD 1 0))) state

/-- Compress one block, `count` bytes into the message. -/
def blake2sBlock (state : List Word) (block : List Nat) (count : Nat) (final : Bool) : List Word :=
  let message := (chunks 4 16 block).map fun bytes => BitVec.ofNat 32 (Text.ofBase 256 bytes.reverse)
  let tail := [wordAt sha256Initial 4 ^^^ BitVec.ofNat 32 count, wordAt sha256Initial 5 ^^^ BitVec.ofNat 32 (count / 2 ^ 32),
    if final then ~~~wordAt sha256Initial 6 else wordAt sha256Initial 6, wordAt sha256Initial 7]
  let mixed := blake2sOrder.foldl (blake2sRound message) (state ++ sha256Initial.take 4 ++ tail)
  List.zipWith (· ^^^ ·) state (List.zipWith (· ^^^ ·) (mixed.take 8) (mixed.drop 8))

/-- `hashlib.blake2s(message, digest_size=size).digest()`. -/
def blake2s (size : Nat) (message : List Nat) : List Nat :=
  let blocks := max 1 ((message.length + 63) / 64)
  let padded := message ++ List.replicate (blocks * 64 - message.length) 0
  let initial := List.zipWith (· ^^^ ·) sha256Initial [BitVec.ofNat 32 (0x01010000 + size), 0, 0, 0, 0, 0, 0, 0]
  let digest := (List.zip (List.range blocks) (chunks 64 blocks padded)).foldl (fun state (index, block) =>
    blake2sBlock state block (min message.length ((index + 1) * 64)) (decide (index + 1 = blocks))) initial
  let bytes := digest.flatMap fun word => (Text.toBase 256 4 word.toNat).reverse
  (List.range size).map fun index => bytes.getD index 0

@[simp] theorem length_blake2s (size : Nat) (message : List Nat) : (blake2s size message).length = size := by
  simp [blake2s]

example : hexdigest (blake2s 32 (utf8 "abc")) = "508c5e8c327c14e2e1a72ba34eeb452f37458b209ed63a294d999b4c86675982" := by
  decide +kernel

end Blake2s

end Digest
