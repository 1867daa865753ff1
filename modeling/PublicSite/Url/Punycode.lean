import PublicSite.Text.Ascii

/-!
# Punycode

The encoding of RFC 3492, which writes a label with letters beyond ASCII in
letters, digits and hyphens.  Code points are written in increasing order as
differences, each difference as digits to the base thirty-six whose thresholds
adapt to what was written before.
-/

namespace PublicSite.Url.Punycode

/-- A digit below thirty-six: the letters, then the decimal digits. -/
def digitChar (value : Nat) : Char :=
  if value < 26 then Char.ofNat (97 + value) else Char.ofNat (22 + value)

/-- The value of a digit, in either case. -/
def digitValue? (char : Char) : Option Nat :=
  if char.isLower then some (char.toNat - 97)
  else if char.isUpper then some (char.toNat - 65)
  else if char.isDigit then some (char.toNat - 22)
  else none

/-- The threshold of a place: from one to twenty-six. -/
def threshold (place bias : Nat) : Nat :=
  if place ≤ bias then 1 else if place ≥ bias + 26 then 26 else place - bias

theorem threshold_le (place bias : Nat) : threshold place bias ≤ 26 := by
  unfold threshold; split
  · omega
  · split <;> omega

theorem threshold_pos (place bias : Nat) : 0 < threshold place bias := by
  unfold threshold; split
  · omega
  · split <;> omega

/-- Divide by thirty-five until the number is small; the count of divisions comes
in steps of thirty-six. -/
def damp (delta place : Nat) : Nat × Nat :=
  if 455 < delta then damp (delta / 35) (place + 36) else (delta, place)
termination_by delta
decreasing_by omega

/-- The bias after a difference has been written. -/
def adapt (delta count : Nat) (isFirst : Bool) : Nat :=
  let halved := if isFirst then delta / 700 else delta / 2
  let (small, place) := damp (halved + halved / count) 0
  place + 36 * small / (small + 38)

/-- The digits of a difference. -/
def encodeDelta (bias place delta : Nat) : List Char :=
  let limit := threshold place bias
  if delta < limit then [digitChar delta]
  else
    digitChar (limit + (delta - limit) % (36 - limit))
      :: encodeDelta bias (place + 36) ((delta - limit) / (36 - limit))
termination_by delta
decreasing_by
  have positive := threshold_pos place bias
  have smaller : (delta - threshold place bias) / (36 - threshold place bias)
      ≤ delta - threshold place bias := Nat.div_le_self _ _
  omega

/-- What encoding carries from one character to the next. -/
structure EncodeState where
  output : List Char
  delta : Nat
  bias : Nat
  handled : Nat

/-- Pass one character of the label while `code` is being written. -/
def encodeChar (basicCount code : Nat) (state : EncodeState) (char : Char) : EncodeState :=
  if char.toNat < code then { state with delta := state.delta + 1 }
  else if char.toNat = code then
    { output := state.output ++ encodeDelta state.bias 36 state.delta
      delta := 0
      bias := adapt state.delta (state.handled + 1) (state.handled == basicCount)
      handled := state.handled + 1 }
  else state

/-- Write the code points beyond ASCII, given in increasing order and each once;
`next` is the least code point not yet passed. -/
def encodeCodes (label : List Char) (basicCount : Nat) :
    List Nat → (next : Nat) → EncodeState → EncodeState
  | [], _, state => state
  | code :: others, next, state =>
      let advanced := { state with delta := state.delta + (code - next) * (state.handled + 1) }
      let passed := label.foldl (encodeChar basicCount code) advanced
      encodeCodes label basicCount others (code + 1) { passed with delta := passed.delta + 1 }

/-- A label in letters, digits and hyphens, without the mark that says so. -/
def encode (label : List Char) : List Char :=
  let basic := label.filter fun char => char.toNat < 0x80
  let codes := dedup ((label.filter fun char => char.toNat ≥ 0x80).map Char.toNat).mergeSort
  let start : EncodeState :=
    { output := if basic.isEmpty then [] else basic ++ ['-']
      delta := 0, bias := 72, handled := basic.length }
  (encodeCodes label basic.length codes 0x80 start).output
where
  /-- The members of a sorted list, each once. -/
  dedup : List Nat → List Nat
    | [] => []
    | [only] => [only]
    | first :: second :: rest =>
        if first = second then dedup (second :: rest) else first :: dedup (second :: rest)

/-! ## Decoding -/

/-- Read the digits of a difference: the number to add, and the rest. -/
def decodeDelta (bias : Nat) : (place weight total : Nat) → List Char → Option (Nat × List Char)
  | _, _, _, [] => none
  | place, weight, total, char :: rest =>
      match digitValue? char with
      | none => none
      | some digit =>
          let limit := threshold place bias
          let next := total + digit * weight
          if digit < limit then some (next, rest)
          else decodeDelta bias (place + 36) (weight * (36 - limit)) next rest

theorem length_of_decodeDelta {bias place weight total delta : Nat} {chars rest : List Char}
    (found : decodeDelta bias place weight total chars = some (delta, rest)) :
    rest.length < chars.length := by
  induction chars generalizing place weight total with
  | nil => simp [decodeDelta] at found
  | cons char others inductionHypothesis =>
      unfold decodeDelta at found
      split at found
      · simp at found
      · simp only at found
        split at found
        · simp only [Option.some.injEq, Prod.mk.injEq] at found
          simp [← found.2]
        · exact Nat.lt_succ_of_lt (inductionHypothesis found)

/-- Insert code points into a label until the digits are used up. -/
def decodeFrom (code position bias : Nat) (isFirst : Bool) (label : List Char)
    (chars : List Char) : Option (List Char) :=
  if chars.isEmpty then some label
  else
    match _found : decodeDelta bias 36 1 0 chars with
    | none => none
    | some (delta, rest) =>
        let count := label.length + 1
        let advanced := position + delta
        let next := code + advanced / count
        let place := advanced % count
        if next > 0x10FFFF ∨ (0xD800 ≤ next ∧ next ≤ 0xDFFF) then none
        else
          decodeFrom next (place + 1) (adapt delta count isFirst) false
            (label.take place ++ Char.ofNat next :: label.drop place) rest
termination_by chars.length
decreasing_by exact length_of_decodeDelta _found

/-- The label that an encoded label stands for. -/
def decode? (encoded : List Char) : Option (List Char) :=
  let reversed := encoded.reverse
  let digits := (reversed.takeWhile (· != '-')).reverse
  let basic := ((reversed.dropWhile (· != '-')).drop 1).reverse
  if basic.all fun char => char.toNat < 0x80 then decodeFrom 0x80 0 72 true basic digits
  else none

end PublicSite.Url.Punycode
