/-!
# SHA-256

The hash function of FIPS 180-4 on a sequence of bytes.  The message is padded to
whole blocks of sixty-four bytes, and each block is compressed into a state of
eight words, whose thirty-two bytes are the digest.
-/

namespace PublicSite.Digest

/-- Rotate a word to the right. -/
def rotateRight (word : UInt32) (count : UInt32) : UInt32 :=
  (word >>> count) ||| (word <<< (32 - count))

/-- The round constants: the first bits of the fractions of the cube roots of the
first sixty-four primes. -/
def roundConstants : List UInt32 :=
  [0x428a2f98, 0x71374491, 0xb5c0fbcf, 0xe9b5dba5, 0x3956c25b, 0x59f111f1, 0x923f82a4,
   0xab1c5ed5, 0xd807aa98, 0x12835b01, 0x243185be, 0x550c7dc3, 0x72be5d74, 0x80deb1fe,
   0x9bdc06a7, 0xc19bf174, 0xe49b69c1, 0xefbe4786, 0x0fc19dc6, 0x240ca1cc, 0x2de92c6f,
   0x4a7484aa, 0x5cb0a9dc, 0x76f988da, 0x983e5152, 0xa831c66d, 0xb00327c8, 0xbf597fc7,
   0xc6e00bf3, 0xd5a79147, 0x06ca6351, 0x14292967, 0x27b70a85, 0x2e1b2138, 0x4d2c6dfc,
   0x53380d13, 0x650a7354, 0x766a0abb, 0x81c2c92e, 0x92722c85, 0xa2bfe8a1, 0xa81a664b,
   0xc24b8b70, 0xc76c51a3, 0xd192e819, 0xd6990624, 0xf40e3585, 0x106aa070, 0x19a4c116,
   0x1e376c08, 0x2748774c, 0x34b0bcb5, 0x391c0cb3, 0x4ed8aa4a, 0x5b9cca4f, 0x682e6ff3,
   0x748f82ee, 0x78a5636f, 0x84c87814, 0x8cc70208, 0x90befffa, 0xa4506ceb, 0xbef9a3f7,
   0xc67178f2]

/-- The eight words that hashing carries from block to block. -/
@[ext]
structure HashState where
  a : UInt32
  b : UInt32
  c : UInt32
  d : UInt32
  e : UInt32
  f : UInt32
  g : UInt32
  h : UInt32

namespace HashState

/-- The state before the first block. -/
def initial : HashState :=
  ⟨0x6a09e667, 0xbb67ae85, 0x3c6ef372, 0xa54ff53a, 0x510e527f, 0x9b05688c, 0x1f83d9ab,
   0x5be0cd19⟩

/-- The sum of two states, word by word. -/
def add (left right : HashState) : HashState :=
  ⟨left.a + right.a, left.b + right.b, left.c + right.c, left.d + right.d,
   left.e + right.e, left.f + right.f, left.g + right.g, left.h + right.h⟩

/-- The words of a state. -/
def words (state : HashState) : List UInt32 :=
  [state.a, state.b, state.c, state.d, state.e, state.f, state.g, state.h]

/-- One round, with its constant and its word of the schedule. -/
def round (state : HashState) (inputs : UInt32 × UInt32) : HashState :=
  let sumE := rotateRight state.e 6 ^^^ rotateRight state.e 11 ^^^ rotateRight state.e 25
  let choice := (state.e &&& state.f) ^^^ (~~~state.e &&& state.g)
  let first := state.h + sumE + choice + inputs.1 + inputs.2
  let sumA := rotateRight state.a 2 ^^^ rotateRight state.a 13 ^^^ rotateRight state.a 22
  let majority := (state.a &&& state.b) ^^^ (state.a &&& state.c) ^^^ (state.b &&& state.c)
  ⟨first + (sumA + majority), state.a, state.b, state.c, state.d + first, state.e, state.f,
   state.g⟩

end HashState

/-- A word from four bytes, the most significant first. -/
def wordOfBytes (a b c d : UInt8) : UInt32 :=
  (a.toUInt32 <<< 24) ||| (b.toUInt32 <<< 16) ||| (c.toUInt32 <<< 8) ||| d.toUInt32

/-- The bytes of a word, the most significant first. -/
def bytesOfWord (word : UInt32) : List UInt8 :=
  [(word >>> 24).toUInt8, (word >>> 16).toUInt8, (word >>> 8).toUInt8, word.toUInt8]

/-- The words of a sequence of bytes; fewer than four bytes at the end are left
out. -/
def wordsOfBytes : List UInt8 → List UInt32
  | a :: b :: c :: d :: rest => wordOfBytes a b c d :: wordsOfBytes rest
  | _ => []

/-- The next word of a schedule that is held in reverse. -/
def scheduleNext (reversed : List UInt32) : UInt32 :=
  let at2 := reversed.getD 1 0
  let at7 := reversed.getD 6 0
  let at15 := reversed.getD 14 0
  let at16 := reversed.getD 15 0
  let small0 := rotateRight at15 7 ^^^ rotateRight at15 18 ^^^ (at15 >>> 3)
  let small1 := rotateRight at2 17 ^^^ rotateRight at2 19 ^^^ (at2 >>> 10)
  at16 + small0 + at7 + small1

/-- Extend a schedule that is held in reverse. -/
def extendSchedule : (count : Nat) → List UInt32 → List UInt32
  | 0, reversed => reversed
  | count + 1, reversed => extendSchedule count (scheduleNext reversed :: reversed)

/-- The sixty-four words of a block of sixteen. -/
def schedule (block : List UInt32) : List UInt32 :=
  (extendSchedule 48 block.reverse).reverse

/-- Compress a block of sixteen words into the state. -/
def compressBlock (state : HashState) (block : List UInt32) : HashState :=
  state.add ((roundConstants.zip (schedule block)).foldl HashState.round state)

/-- Compress the blocks of a list of words; fewer than sixteen words at the end
are left out. -/
def compressWords (state : HashState) (words : List UInt32) : HashState :=
  if words.length < 16 then state
  else compressWords (compressBlock state (words.take 16)) (words.drop 16)
termination_by words.length
decreasing_by simp only [List.length_drop]; omega

/-- The length of a message in bits, as eight bytes. -/
def lengthBytes (size : Nat) : List UInt8 :=
  (List.range 8).map fun place => UInt8.ofNat (size * 8 / Nat.pow 256 (7 - place))

/-- A message with a one bit, zeros, and its length behind it, so that its blocks
are whole. -/
def padMessage (message : List UInt8) : List UInt8 :=
  let zeros := (119 - message.length % 64) % 64
  message ++ 0x80 :: List.replicate zeros 0 ++ lengthBytes message.length

/-- The digest of a message: thirty-two bytes. -/
def sha256 (message : List UInt8) : List UInt8 :=
  (compressWords HashState.initial (wordsOfBytes (padMessage message))).words.flatMap bytesOfWord

/-- Every digest has thirty-two bytes. -/
@[simp]
theorem length_sha256 (message : List UInt8) : (sha256 message).length = 32 := by
  simp [sha256, HashState.words, bytesOfWord]

end PublicSite.Digest
