/-!
# Base64 for URLs

Three bytes are written as four characters of an alphabet that is safe in URLs.
Nothing pads the end: one byte left over is written as two characters and two
bytes as three, with zero bits behind them.  `decode?` reads what `encode` writes
and refuses a last character whose spare bits are not zero.
-/

namespace PublicSite.Digest.Base64Url

/-- The character of a number below sixty-four. -/
def digit (value : Nat) : Char :=
  if value < 26 then Char.ofNat (65 + value)
  else if value < 52 then Char.ofNat (71 + value)
  else if value < 62 then Char.ofNat (value - 4)
  else if value = 62 then '-'
  else '_'

/-- The number of a character. -/
def value? (char : Char) : Option Nat :=
  if char.isUpper then some (char.toNat - 65)
  else if char.isLower then some (char.toNat - 71)
  else if char.isDigit then some (char.toNat + 4)
  else if char = '-' then some 62
  else if char = '_' then some 63
  else none

/-- A character of the alphabet. -/
def isDigit (char : Char) : Bool :=
  char.isAlphanum || char == '-' || char == '_'

/-- Bytes in characters of the alphabet. -/
def encode : List UInt8 → List Char
  | a :: b :: c :: rest =>
      let group := a.toNat * 65536 + b.toNat * 256 + c.toNat
      digit (group / 262144) :: digit (group / 4096 % 64) :: digit (group / 64 % 64)
        :: digit (group % 64) :: encode rest
  | [a, b] =>
      let group := a.toNat * 1024 + b.toNat * 4
      [digit (group / 4096), digit (group / 64 % 64), digit (group % 64)]
  | [a] =>
      let group := a.toNat * 16
      [digit (group / 64), digit (group % 64)]
  | [] => []

/-- Read bytes that were written in characters of the alphabet. -/
def decode? : List Char → Option (List UInt8)
  | a :: b :: c :: d :: rest => do
      let group := (← value? a) * 262144 + (← value? b) * 4096 + (← value? c) * 64 + (← value? d)
      let others ← decode? rest
      return UInt8.ofNat (group / 65536) :: UInt8.ofNat (group / 256 % 256)
        :: UInt8.ofNat (group % 256) :: others
  | [a, b, c] => do
      let group := (← value? a) * 4096 + (← value? b) * 64 + (← value? c)
      if group % 4 = 0 then
        return [UInt8.ofNat (group / 1024), UInt8.ofNat (group / 4 % 256)]
      else none
  | [a, b] => do
      let group := (← value? a) * 64 + (← value? b)
      if group % 16 = 0 then return [UInt8.ofNat (group / 16)] else none
  | [_] => none
  | [] => some []

end PublicSite.Digest.Base64Url
