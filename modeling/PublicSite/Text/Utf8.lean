/-!
# UTF-8

Encoding is the core library's.  Decoding never fails: a byte sequence that is
not UTF-8 gives a replacement character for each maximal broken part, which is
what a query string is read with.  The strict reader refuses such a sequence
instead.
-/

namespace PublicSite.Text.Utf8

/-- The bytes of a text. -/
def encode (chars : List Char) : List UInt8 :=
  chars.flatMap String.utf8EncodeChar

/-- The replacement character, which stands for what is not UTF-8. -/
def replacement : Char := '\uFFFD'

/-- What the first byte of a character promises: how many bytes follow, the
range of the next one, and the bits that the first byte contributes. -/
structure Lead where
  following : Nat
  low : Nat
  high : Nat
  bits : Nat

/-- Read a first byte that is not ASCII. -/
def lead? (byte : Nat) : Option Lead :=
  if 0xC2 ≤ byte ∧ byte ≤ 0xDF then some ⟨1, 0x80, 0xBF, byte - 0xC0⟩
  else if byte = 0xE0 then some ⟨2, 0xA0, 0xBF, 0⟩
  else if byte = 0xED then some ⟨2, 0x80, 0x9F, 0xD⟩
  else if 0xE1 ≤ byte ∧ byte ≤ 0xEF then some ⟨2, 0x80, 0xBF, byte - 0xE0⟩
  else if byte = 0xF0 then some ⟨3, 0x90, 0xBF, 0⟩
  else if byte = 0xF4 then some ⟨3, 0x80, 0x8F, 4⟩
  else if 0xF1 ≤ byte ∧ byte ≤ 0xF3 then some ⟨3, 0x80, 0xBF, byte - 0xF0⟩
  else none

/-- Read the bytes that follow a first byte.  The answer is the character, when
all of them are there, and the bytes not consumed. -/
def tail (following low high bits : Nat) (bytes : List UInt8) : Option Char × List UInt8 :=
  match following, bytes with
  | 0, rest => (some (Char.ofNat bits), rest)
  | _ + 1, [] => (none, [])
  | remaining + 1, byte :: rest =>
      if low ≤ byte.toNat ∧ byte.toNat ≤ high then
        tail remaining 0x80 0xBF (bits * 64 + (byte.toNat - 0x80)) rest
      else (none, byte :: rest)

theorem length_tail (following low high bits : Nat) (bytes : List UInt8) :
    (tail following low high bits bytes).2.length ≤ bytes.length := by
  induction following generalizing low high bits bytes with
  | zero => simp [tail]
  | succ remaining inductionHypothesis =>
      cases bytes with
      | nil => simp [tail]
      | cons byte rest =>
          simp only [tail]
          split
          · exact Nat.le_succ_of_le (inductionHypothesis _ _ _ _)
          · simp

/-- Read one character from a first byte and what follows it. -/
def step (byte : UInt8) (rest : List UInt8) : Option Char × List UInt8 :=
  if byte.toNat < 0x80 then (some (Char.ofNat byte.toNat), rest)
  else
    match lead? byte.toNat with
    | none => (none, rest)
    | some lead => tail lead.following lead.low lead.high lead.bits rest

theorem length_step (byte : UInt8) (rest : List UInt8) :
    (step byte rest).2.length ≤ rest.length := by
  unfold step
  split
  · simp
  · split
    · simp
    · exact length_tail _ _ _ _ _

/-- The characters of a byte sequence, with `none` for each maximal part that
is not UTF-8. -/
def scan : List UInt8 → List (Option Char)
  | [] => []
  | byte :: rest =>
      (step byte rest).1 :: scan (step byte rest).2
termination_by bytes => bytes.length
decreasing_by
  have shorter := length_step byte rest
  simp only [List.length_cons]
  omega

/-- Decode, with a replacement character for each broken part. -/
def decodeLossy (bytes : List UInt8) : List Char :=
  (scan bytes).map fun found => found.getD replacement

/-- Decode, or refuse what is not UTF-8. -/
def decode? (bytes : List UInt8) : Option (List Char) :=
  (scan bytes).mapM id

end PublicSite.Text.Utf8
