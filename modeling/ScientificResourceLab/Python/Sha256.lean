import ScientificResourceLab.Python.Text

/-!
# SHA-256

The digest that `hashlib.sha256(content).hexdigest()` returns.  Words are
natural numbers below `2 ^ 32`.  The message schedule is not stored: a window
of its last sixteen words slides along the sixty-four rounds.

Nothing below depends on the digest of one message.  What the repository
relies on is the shape of every digest, `sha256_hex`.
-/

namespace ScientificResourceLab.Python

namespace Sha256

/-- Addition of words. -/
def wordAdd (left right : Nat) : Nat :=
  (left + right) % 0x100000000

/-- Rotation of a word to the right. -/
def rotateRight (word count : Nat) : Nat :=
  (word >>> count ||| word <<< (32 - count)) % 0x100000000

def roundConstants : List Nat :=
  [0x428a2f98, 0x71374491, 0xb5c0fbcf, 0xe9b5dba5,
    0x3956c25b, 0x59f111f1, 0x923f82a4, 0xab1c5ed5,
    0xd807aa98, 0x12835b01, 0x243185be, 0x550c7dc3,
    0x72be5d74, 0x80deb1fe, 0x9bdc06a7, 0xc19bf174,
    0xe49b69c1, 0xefbe4786, 0x0fc19dc6, 0x240ca1cc,
    0x2de92c6f, 0x4a7484aa, 0x5cb0a9dc, 0x76f988da,
    0x983e5152, 0xa831c66d, 0xb00327c8, 0xbf597fc7,
    0xc6e00bf3, 0xd5a79147, 0x06ca6351, 0x14292967,
    0x27b70a85, 0x2e1b2138, 0x4d2c6dfc, 0x53380d13,
    0x650a7354, 0x766a0abb, 0x81c2c92e, 0x92722c85,
    0xa2bfe8a1, 0xa81a664b, 0xc24b8b70, 0xc76c51a3,
    0xd192e819, 0xd6990624, 0xf40e3585, 0x106aa070,
    0x19a4c116, 0x1e376c08, 0x2748774c, 0x34b0bcb5,
    0x391c0cb3, 0x4ed8aa4a, 0x5b9cca4f, 0x682e6ff3,
    0x748f82ee, 0x78a5636f, 0x84c87814, 0x8cc70208,
    0x90befffa, 0xa4506ceb, 0xbef9a3f7, 0xc67178f2]

/-- The eight working words. -/
structure Words where
  a : Nat
  b : Nat
  c : Nat
  d : Nat
  e : Nat
  f : Nat
  g : Nat
  h : Nat

/-- The initial hash value. -/
def initial : Words :=
  { a := 0x6a09e667, b := 0xbb67ae85, c := 0x3c6ef372, d := 0xa54ff53a
    e := 0x510e527f, f := 0x9b05688c, g := 0x1f83d9ab, h := 0x5be0cd19 }

/-- The next word of the schedule from the sixteen before it. -/
def nextWord (window : List Nat) : Nat :=
  let early := window.getD 1 0
  let late := window.getD 14 0
  let mixEarly :=
    rotateRight early 7 ^^^ rotateRight early 18 ^^^ (early >>> 3)
  let mixLate :=
    rotateRight late 17 ^^^ rotateRight late 19 ^^^ (late >>> 10)
  (window.getD 0 0 + mixEarly + window.getD 9 0 + mixLate) % 0x100000000

/-- One round of the compression function. -/
def round (state : Words) (constant word : Nat) : Words :=
  let choice :=
    (state.e &&& state.f) ^^^ ((0xffffffff - state.e) &&& state.g)
  let majority :=
    (state.a &&& state.b) ^^^ (state.a &&& state.c) ^^^
      (state.b &&& state.c)
  let mixA :=
    rotateRight state.a 2 ^^^ rotateRight state.a 13 ^^^
      rotateRight state.a 22
  let mixE :=
    rotateRight state.e 6 ^^^ rotateRight state.e 11 ^^^
      rotateRight state.e 25
  let first :=
    (state.h + mixE + choice + constant + word) % 0x100000000
  { a := wordAdd first (mixA + majority)
    b := state.a
    c := state.b
    d := state.c
    e := wordAdd state.d first
    f := state.e
    g := state.f
    h := state.g }

/-- The rounds of one block over the sliding window of the schedule. -/
def rounds : List Nat → List Nat → Words → Words
  | constant :: constants, word :: window, state =>
      rounds constants (window ++ [nextWord (word :: window)])
        (round state constant word)
  | _, _, state => state

/-- Fold the result of the rounds into the chaining value. -/
def combine (left right : Words) : Words :=
  { a := wordAdd left.a right.a, b := wordAdd left.b right.b
    c := wordAdd left.c right.c, d := wordAdd left.d right.d
    e := wordAdd left.e right.e, f := wordAdd left.f right.f
    g := wordAdd left.g right.g, h := wordAdd left.h right.h }

/-- Big-endian words of a byte string. -/
def words : Bytes → List Nat
  | a :: b :: c :: d :: rest =>
      (a.toNat * 0x1000000 + b.toNat * 0x10000 + c.toNat * 0x100 +
        d.toNat) :: words rest
  | _ => []

/-- Compress a number of sixteen-word blocks. -/
def blocks : Nat → List Nat → Words → Words
  | 0, _, state => state
  | count + 1, message, state =>
      blocks count (message.drop 16)
        (combine state (rounds roundConstants (message.take 16) state))

/-- The message, its end mark, zeros, and its length in bits. -/
def pad (content : Bytes) : Bytes :=
  content ++ (0x80 : UInt8) ::
    (List.replicate ((119 - content.length % 64) % 64) (0 : UInt8) ++
      (List.range 8).map fun index =>
        byte ((content.length * 8) >>> (8 * (7 - index))))

/-- The final chaining value. -/
def digest (content : Bytes) : Words :=
  let padded := pad content
  blocks (padded.length / 64) (words padded) initial

/-- The eight hexadecimal digits of a word. -/
def hexWord (word : Nat) : Text :=
  (List.range 8).map fun index =>
    hexPoint (word >>> (4 * (7 - index)) % 16)

/-- The four bytes of a word. -/
def wordBytes (word : Nat) : Bytes :=
  (List.range 4).map fun index =>
    byte (word >>> (8 * (3 - index)) % 256)

/-- The words of a chaining value. -/
def Words.list (words : Words) : List Nat :=
  [words.a, words.b, words.c, words.d, words.e, words.f, words.g, words.h]

end Sha256

/-- `hashlib.sha256(content).hexdigest()`. -/
@[irreducible]
def sha256 (content : Bytes) : Text :=
  (Sha256.digest content).list.flatMap Sha256.hexWord

/-- `hashlib.sha256(content).digest()`. -/
def sha256Digest (content : Bytes) : Bytes :=
  (Sha256.digest content).list.flatMap Sha256.wordBytes

/-- The block that an HMAC makes of its key. -/
def hmacKey (key : Bytes) : Bytes :=
  let short := if 64 < key.length then sha256Digest key else key
  short ++ List.replicate (64 - short.length) 0

/-- `hmac.new(key, content, hashlib.sha256).hexdigest()`. -/
def hmacSha256 (key content : Bytes) : Text :=
  sha256 ((hmacKey key).map (· ^^^ 0x5c) ++
    sha256Digest ((hmacKey key).map (· ^^^ 0x36) ++ content))

/-- A digest is sixty-four lowercase hexadecimal digits. -/
theorem sha256_hex (content : Bytes) :
    (sha256 content).length = 64 ∧
      ∀ point ∈ sha256 content, CodePoint.isLowerHex point = true := by
  rw [sha256]
  refine ⟨by simp [Sha256.hexWord, Sha256.Words.list], ?_⟩
  intro point member
  obtain ⟨word, _, inWord⟩ := List.mem_flatMap.mp member
  obtain ⟨index, _, rfl⟩ := List.mem_map.mp inWord
  exact hexPoint_isLowerHex (Nat.mod_lt _ (by decide))

theorem hmacSha256_hex (key content : Bytes) :
    (hmacSha256 key content).length = 64 ∧
      ∀ point ∈ hmacSha256 key content,
        CodePoint.isLowerHex point = true :=
  sha256_hex _

example :
    sha256 [97, 98, 99] =
      text ("ba7816bf8f01cfea414140de5dae2223" ++
        "b00361a396177a9cb410ff61f20015ad") := by
  decide +kernel

end ScientificResourceLab.Python
