import Mathlib.Algebra.Group.Nat.Defs
import Mathlib.Data.List.TakeWhile
import PublicSite.Proofs.Failure
import PublicSite.Proofs.Text.Digits
import PublicSite.Proofs.Text.Pieces
import PublicSite.Url.Address

/-!
# Internet addresses and their reading

An address is read back from the form in which it is written: an IPv4 address from
its four parts, and an IPv6 address from its groups, with the run of zeros that was
left out filled in again.  What is read at all is an address of its size.
-/

namespace PublicSite.Url

open PublicSite.Text

/-! ## IPv4 -/

/-- The number of an IPv4 address fills no more than four bytes. -/
def ipv4Bound : Nat :=
  0x100000000

theorem ipv4Number?_decimalDigits (value : Nat) :
    ipv4Number? (decimalDigits value) = some value := by
  have worth : (decimalDigits value).foldlM (fun total digit => do
      let digitValue ← hexValue? digit
      if digitValue < 10 then some (total * 10 + digitValue) else none) 0 = some value := by
    refine foldlM_toDigits (by decide) (fun total digit small => ?_) value
    simp [hexValue?_digitChar digit (by omega), small]
  have notEmpty : ¬ (decimalDigits value).isEmpty = true := by
    simpa using decimalDigits_ne_nil value
  have alone : ∀ rest, decimalDigits value = '0' :: rest → rest = [] := fun rest =>
    eq_nil_of_toDigits_eq_cons_zero (by decide) (by decide)
  unfold ipv4Number?
  split
  rename_i base digits marked
  split at marked
  · rename_i rest written
    exact nomatch alone _ written
  · rename_i rest written
    exact nomatch alone _ written
  · rename_i digit rest written
    exact nomatch alone _ written
  · obtain ⟨rfl, rfl⟩ := Prod.mk.inj marked
    rw [if_neg notEmpty, worth]

/-- Add up bytes, each worth what its place gives it. -/
def addBytes (place start : Nat) (bytes : List Nat) : Nat :=
  (bytes.zipIdx place).foldl (fun total part => total + part.1 * Nat.pow 256 (3 - part.2)) start

theorem addBytes_cons (place start byte : Nat) (bytes : List Nat) :
    addBytes place start (byte :: bytes) =
      addBytes (place + 1) (start + byte * 256 ^ (3 - place)) bytes :=
  rfl

theorem addBytes_add (place start more : Nat) (bytes : List Nat) :
    addBytes place (start + more) bytes = addBytes place start bytes + more := by
  induction bytes generalizing place start with
  | nil => rfl
  | cons byte rest ih => rw [addBytes_cons, addBytes_cons, Nat.add_right_comm, ih]

/-- Bytes from a place on, and less than one behind them, are less than one before them. -/
theorem addBytes_lt {place start : Nat} {bytes : List Nat} (few : place + bytes.length ≤ 3)
    (areBytes : ∀ byte ∈ bytes, byte ≤ 255)
    (small : start < 256 ^ (4 - (place + bytes.length))) :
    addBytes place start bytes < 256 ^ (4 - place) := by
  induction bytes generalizing place with
  | nil => exact small
  | cons byte rest ih =>
      rw [List.length_cons] at few small
      -- The bytes behind this one come to less than one here.
      have later : addBytes (place + 1) start rest < 256 ^ (4 - (place + 1)) :=
        ih (by omega) (fun other member => areBytes other (List.mem_cons_of_mem byte member))
          (by rwa [show place + 1 + rest.length = place + (rest.length + 1) by omega])
      have isByte : byte ≤ 255 := areBytes byte List.mem_cons_self
      have exponent : 4 - place = 4 - (place + 1) + 1 := by omega
      have weight : 3 - place = 4 - (place + 1) := by omega
      rw [addBytes_cons, addBytes_add, exponent, Nat.pow_succ, weight]
      calc
        addBytes (place + 1) start rest + byte * 256 ^ (4 - (place + 1)) <
            256 ^ (4 - (place + 1)) + 255 * 256 ^ (4 - (place + 1)) :=
          Nat.add_lt_add_of_lt_of_le later (Nat.mul_le_mul_right _ isByte)
        _ = 256 ^ (4 - (place + 1)) * 256 := by omega

theorem joinIpv4?_eq_some_iff {leading : List Nat} {last address : Nat} :
    joinIpv4? (leading ++ [last]) = some address ↔
      last < 256 ^ (4 - leading.length) ∧ (∀ part ∈ leading, part ≤ 255) ∧
        addBytes 0 last leading = address := by
  have turned : (leading ++ [last]).reverse = last :: leading.reverse := by simp
  rw [joinIpv4?, turned]
  simp [and_assoc, addBytes]

/-- The four bytes of an IPv4 address. -/
def ipv4Bytes (address : Nat) : List Nat :=
  [address / 0x1000000 % 256, address / 0x10000 % 256, address / 0x100 % 256, address % 256]

theorem printIpv4_eq (address : Nat) :
    printIpv4 address = join ['.'] ((ipv4Bytes address).map decimalDigits) :=
  rfl

/-- An address is put together from its bytes. -/
theorem joinIpv4?_ipv4Bytes {address : Nat} (small : address < ipv4Bound) :
    joinIpv4? (ipv4Bytes address) = some address := by
  have bound : address < 4294967296 := small
  have last : address % 256 < 256 := Nat.mod_lt address (by decide)
  simp [joinIpv4?, ipv4Bytes]
  omega

theorem joinIpv4?_lt {parts : List Nat} {address : Nat} (few : parts.length ≤ 4)
    (joined : joinIpv4? parts = some address) : address < ipv4Bound := by
  rcases List.eq_nil_or_concat parts with rfl | ⟨leading, last, rfl⟩
  · exact nomatch joined
  · rw [List.concat_eq_append] at joined few
    obtain ⟨lastSmall, areBytes, rfl⟩ := joinIpv4?_eq_some_iff.mp joined
    refine addBytes_lt ?_ areBytes (by rwa [Nat.zero_add])
    simp at few
    omega

/-- The parts of an IPv4 address; a dot at the end begins no further one. -/
def ipv4Parts (name : List Char) : List (List Char) :=
  let parts := pieces (· == '.') name
  if parts.getLast? == some [] then parts.dropLast else parts

theorem parseIpv4?_eq_some_iff {name : List Char} {address : Nat} :
    parseIpv4? name = some address ↔
      (ipv4Parts name).length ≤ 4 ∧ ∃ values,
        (ipv4Parts name).map ipv4Number? = values.map some ∧ joinIpv4? values = some address := by
  have opened : parseIpv4? name =
      if (ipv4Parts name).length > 4 then none
      else (ipv4Parts name).mapM ipv4Number? >>= joinIpv4? := by
    rw [parseIpv4?, ipv4Parts]
    split <;> rfl
  rw [opened]
  constructor
  · intro read
    split at read
    · exact nomatch read
    · rename_i few
      obtain ⟨values, areNumbers, joined⟩ := Option.bind_eq_some_iff.mp read
      exact ⟨Nat.not_lt.mp few, values, mapM_eq_some_iff.mp areNumbers, joined⟩
  · rintro ⟨few, values, areNumbers, joined⟩
    rw [if_neg (Nat.not_lt.mpr few), mapM_eq_some_iff.mpr areNumbers]
    exact joined

theorem pieces_printIpv4 (address : Nat) :
    pieces (· == '.') (printIpv4 address) = (ipv4Bytes address).map decimalDigits := by
  refine pieces_join rfl (by simp) ?_
  intro part member char inPart
  obtain ⟨value, _, rfl⟩ := List.mem_map.mp member
  have isDigit := isDigit_of_mem_decimalDigits inPart
  rw [beq_eq_false_iff_ne]
  rintro rfl
  exact absurd isDigit (by decide)

/-- An IPv4 address holds digits and dots. -/
theorem mem_printIpv4 {address : Nat} {char : Char} (member : char ∈ printIpv4 address) :
    char = '.' ∨ char.isDigit = true := by
  rw [printIpv4_eq] at member
  rcases mem_join member with isDot | ⟨part, isPart, inPart⟩
  · exact Or.inl (List.mem_singleton.mp isDot)
  · obtain ⟨value, _, rfl⟩ := List.mem_map.mp isPart
    exact Or.inr (isDigit_of_mem_decimalDigits inPart)

/-- A written IPv4 address is taken for one. -/
theorem endsInNumber_printIpv4 (address : Nat) : endsInNumber (printIpv4 address) = true := by
  have allDigits : (decimalDigits (address % 256)).all Char.isDigit = true :=
    List.all_eq_true.mpr fun _ member => isDigit_of_mem_decimalDigits member
  rw [endsInNumber, pieces_printIpv4, ipv4Bytes]
  cases digits : decimalDigits (address % 256) with
  | nil => exact absurd digits (decimalDigits_ne_nil _)
  | cons first rest =>
      rw [digits] at allDigits
      simp [digits, allDigits]

/-- An IPv4 address is read back. -/
theorem parseIpv4?_printIpv4 {address : Nat} (small : address < ipv4Bound) :
    parseIpv4? (printIpv4 address) = some address := by
  have parts : ipv4Parts (printIpv4 address) = (ipv4Bytes address).map decimalDigits := by
    rw [ipv4Parts, pieces_printIpv4]
    simp [ipv4Bytes, decimalDigits_ne_nil]
  refine parseIpv4?_eq_some_iff.mpr
    ⟨by simp [parts, ipv4Bytes], _, ?_, joinIpv4?_ipv4Bytes small⟩
  rw [parts, List.map_map]
  exact List.map_congr_left fun value _ => ipv4Number?_decimalDigits value

theorem parseIpv4?_lt {name : List Char} {address : Nat}
    (read : parseIpv4? name = some address) : address < ipv4Bound := by
  obtain ⟨few, values, areNumbers, joined⟩ := parseIpv4?_eq_some_iff.mp read
  refine joinIpv4?_lt ?_ joined
  have sameLength := congrArg List.length areNumbers
  rw [List.length_map, List.length_map] at sameLength
  omega

/-! ## Groups -/

/-- A group of an IPv6 address fills no more than two bytes. -/
def groupBound : Nat :=
  0x10000

/-- Groups as they are written between colons. -/
def printGroups (groups : List Nat) : List Char :=
  join [':'] (groups.map hexDigits)

/-- A mark that is no digit is in no group. -/
theorem not_mem_hexDigits {mark : Char} (isMark : ∀ digit < 16, Nat.digitChar digit ≠ mark)
    (group : Nat) : mark ∉ hexDigits group := by
  intro member
  obtain ⟨digit, small, same⟩ := exists_digit_of_mem_toDigits (by decide) member
  exact isMark digit small same.symm

theorem digitChar_ne_dot : ∀ digit < 16, Nat.digitChar digit ≠ '.' := by
  decide

theorem digitChar_ne_colon : ∀ digit < 16, Nat.digitChar digit ≠ ':' := by
  decide

theorem ipv6Group?_hexDigits {group : Nat} (small : group < groupBound) :
    ipv6Group? (hexDigits group) = some group := by
  have short : (hexDigits group).length ≤ 4 :=
    (Nat.length_toDigits_le_iff (by decide) (by decide)).mpr small
  have worth : (hexDigits group).foldlM
      (fun value digit => (hexValue? digit).map (value * 16 + ·)) 0 = some group := by
    refine foldlM_toDigits (by decide) (fun total digit small => ?_) group
    rw [hexValue?_digitChar digit small]
    rfl
  rw [ipv6Group?, if_neg, worth]
  simpa using And.intro (hexDigits_ne_nil group) short

/-- Hexadecimal digits behind a number make it longer by as many places. -/
theorem foldlM_hexValue?_lt {digits : List Char} {start total : Nat}
    (read : digits.foldlM (fun value digit => (hexValue? digit).map (value * 16 + ·)) start =
      some total) : total < (start + 1) * 16 ^ digits.length := by
  induction digits generalizing start with
  | nil =>
      obtain rfl := Option.some.inj read
      simp
  | cons digit rest ih =>
      rw [List.foldlM_cons] at read
      obtain ⟨_, isDigit, read⟩ := Option.bind_eq_some_iff.mp read
      obtain ⟨value, isValue, rfl⟩ := Option.map_eq_some_iff.mp isDigit
      have upTo : start * 16 + value + 1 ≤ (start + 1) * 16 := by
        have small := hexValue?_lt isValue
        omega
      calc
        total < (start * 16 + value + 1) * 16 ^ rest.length := ih read
        _ ≤ (start + 1) * 16 * 16 ^ rest.length := Nat.mul_le_mul_right _ upTo
        _ = (start + 1) * 16 ^ (digit :: rest).length := by
          rw [List.length_cons, Nat.pow_succ, Nat.mul_assoc, Nat.mul_comm 16]

theorem ipv6Group?_lt {chars : List Char} {group : Nat} (read : ipv6Group? chars = some group) :
    group < groupBound := by
  unfold ipv6Group? at read
  split at read
  · exact nomatch read
  · rename_i short
    have few : chars.length ≤ 4 := by
      simp at short
      omega
    calc
      group < (0 + 1) * 16 ^ chars.length := foldlM_hexValue?_lt read
      _ ≤ (0 + 1) * 16 ^ 4 := Nat.mul_le_mul_left _ (Nat.pow_le_pow_right (by decide) few)

/-- The parts of an address in decimal are bytes. -/
theorem le_of_mem_parseDotted? {chars : List Char} {parts : List Nat}
    (read : parseDotted? chars = some parts) : ∀ part ∈ parts, part ≤ 255 := by
  unfold parseDotted? at read
  obtain ⟨values, areValues, finished⟩ := Option.bind_eq_some_iff.mp read
  intro part member
  have same : parts = values := by
    split at finished
    · exact (Option.some.inj finished).symm
    · exact nomatch finished
  have isValue : some part ∈ values.map some := List.mem_map_of_mem (same ▸ member)
  rw [← mapM_eq_some_iff.mp areValues] at isValue
  obtain ⟨text, _, isPart⟩ := List.mem_map.mp isValue
  split at isPart
  · exact nomatch isPart
  · split at isPart
    · rename_i small
      exact Option.some.inj isPart ▸ small
    · exact nomatch isPart

theorem lt_of_mem_ipv6Groups? {parts : List (List Char)} {groups : List Nat}
    (read : ipv6Groups? parts = some groups) : ∀ group ∈ groups, group < groupBound := by
  induction parts generalizing groups with
  | nil =>
      obtain rfl := Option.some.inj read
      simp
  | cons first rest ih =>
      cases rest with
      | nil =>
          unfold ipv6Groups? at read
          split at read
          · split at read
            · rename_i dotted
              obtain rfl := Option.some.inj read
              have areBytes := le_of_mem_parseDotted? dotted
              simp only [List.mem_cons, List.not_mem_nil, or_false, forall_eq_or_imp,
                forall_eq] at areBytes ⊢
              change _ < 65536 ∧ _ < 65536
              omega
            · exact nomatch read
          · obtain ⟨group, isGroup, rfl⟩ := Option.map_eq_some_iff.mp read
            simpa using ipv6Group?_lt isGroup
      | cons second others =>
          rw [ipv6Groups?] at read
          · obtain ⟨group, isGroup, read⟩ := Option.bind_eq_some_iff.mp read
            obtain ⟨later, areGroups, finished⟩ := Option.bind_eq_some_iff.mp read
            obtain rfl := Option.some.inj finished
            intro value member
            rcases List.mem_cons.mp member with rfl | inLater
            · exact ipv6Group?_lt isGroup
            · exact ih areGroups value inLater
          · simp

/-- Groups are read back from between their colons. -/
theorem ipv6Groups?_hexDigits {groups : List Nat} (small : ∀ group ∈ groups, group < groupBound) :
    ipv6Groups? (groups.map hexDigits) = some groups := by
  induction groups with
  | nil => rfl
  | cons first rest ih =>
      have isGroup := ipv6Group?_hexDigits (small first List.mem_cons_self)
      cases rest with
      | nil =>
          have noDot : (hexDigits first).contains '.' = false := by
            simpa using not_mem_hexDigits digitChar_ne_dot first
          rw [List.map_cons, List.map_nil, ipv6Groups?, noDot, isGroup]
          rfl
      | cons second others =>
          have areGroups := ih fun group member => small group (List.mem_cons_of_mem first member)
          rw [List.map_cons, ipv6Groups?, isGroup]
          rw [areGroups]
          · rfl
          · simp

theorem pieces_printGroups {groups : List Nat} (notEmpty : groups ≠ []) :
    pieces (· == ':') (printGroups groups) = groups.map hexDigits := by
  refine pieces_join rfl (by simpa using notEmpty) ?_
  intro part member
  obtain ⟨group, _, rfl⟩ := List.mem_map.mp member
  exact beq_eq_false_of_not_mem (not_mem_hexDigits digitChar_ne_colon group)

/-- Groups hold digits and colons. -/
theorem mem_printGroups {groups : List Nat} {char : Char} (member : char ∈ printGroups groups) :
    char = ':' ∨ ∃ digit < 16, char = Nat.digitChar digit := by
  rcases mem_join member with isColon | ⟨part, isPart, inPart⟩
  · exact Or.inl (List.mem_singleton.mp isColon)
  · obtain ⟨group, _, rfl⟩ := List.mem_map.mp isPart
    exact Or.inr (exists_digit_of_mem_toDigits (by decide) inPart)

theorem printGroups_eq_nil_iff {groups : List Nat} : printGroups groups = [] ↔ groups = [] := by
  constructor
  · intro nothing
    cases groups with
    | nil => rfl
    | cons first rest =>
        have cut := pieces_printGroups (List.cons_ne_nil first rest)
        rw [nothing] at cut
        exact absurd (List.cons.inj cut).1.symm (hexDigits_ne_nil first)
  · rintro rfl
    rfl

/-! ## Pairs of colons -/

theorem splitDoubleColon?_cons {char : Char} {rest : List Char}
    (noPair : char ≠ ':' ∨ rest.head? ≠ some ':') :
    splitDoubleColon? (char :: rest) =
      (splitDoubleColon? rest).map fun sides => (char :: sides.1, sides.2) := by
  rw [splitDoubleColon?]
  rintro after rfl rfl
  simp at noPair

theorem splitDoubleColon?_append {front : List Char} (noColon : ':' ∉ front) (back : List Char) :
    splitDoubleColon? (front ++ back) =
      (splitDoubleColon? back).map fun sides => (front ++ sides.1, sides.2) := by
  induction front with
  | nil => simp
  | cons char rest ih =>
      obtain ⟨notColon, restNone⟩ := List.ne_and_not_mem_of_not_mem_cons noColon
      rw [List.cons_append, splitDoubleColon?_cons (Or.inl notColon.symm), ih restNone,
        Option.map_map]
      rfl

/-- Among groups no two colons stand together. -/
theorem splitDoubleColon?_printGroups (groups : List Nat) (back : List Char) :
    splitDoubleColon? (printGroups groups ++ back) =
      (splitDoubleColon? back).map fun sides => (printGroups groups ++ sides.1, sides.2) := by
  induction groups with
  | nil => simp [printGroups, join]
  | cons first rest ih =>
      have noColon : ':' ∉ hexDigits first := not_mem_hexDigits digitChar_ne_colon first
      cases rest with
      | nil => exact splitDoubleColon?_append noColon back
      | cons second others =>
          have next : printGroups (first :: second :: others) =
              hexDigits first ++ ':' :: printGroups (second :: others) := by
            simp [printGroups, join_cons_cons]
          -- The next group begins with a digit, so the colon before it makes no pair.
          have noPair : (printGroups (second :: others) ++ back).head? ≠ some ':' := by
            obtain ⟨digit, digits, written⟩ :=
              List.exists_cons_of_ne_nil (hexDigits_ne_nil second)
            have isDigit := not_mem_hexDigits digitChar_ne_colon second
            rw [written] at isDigit
            rw [printGroups, List.map_cons, written, join_cons_char]
            simpa using (List.ne_of_not_mem_cons isDigit).symm
          rw [next, List.append_assoc, splitDoubleColon?_append noColon, List.cons_append,
            splitDoubleColon?_cons (Or.inr noPair), ih, Option.map_map, Option.map_map]
          congr 1
          funext sides
          simp

/-! ## Runs of zeros -/

/-- A run of zeros in groups, given by its place and length; `place` is that of the
first group. -/
def IsZeros (place : Nat) (groups : List Nat) (run : Nat × Nat) : Prop :=
  ∃ front back, groups = front ++ (List.replicate run.2 0 ++ back) ∧
    run.1 = place + front.length

theorem takeWhile_eq_replicate (groups : List Nat) :
    groups.takeWhile (· == 0) = List.replicate (groups.takeWhile (· == 0)).length 0 :=
  List.eq_replicate_of_mem fun group member => by
    simpa using List.mem_takeWhile_imp (p := (· == 0)) member

/-- The zeros at the front are a run. -/
theorem isZeros_front (place group : Nat) (rest : List Nat) :
    IsZeros place (group :: rest)
      (place, if group = 0 then 1 + (rest.takeWhile (· == 0)).length else 0) := by
  by_cases zero : group = 0
  · refine ⟨[], rest.dropWhile (· == 0), ?_, rfl⟩
    simp only [if_pos zero, Nat.add_comm 1, List.replicate_succ, ← takeWhile_eq_replicate]
    rw [List.nil_append, List.cons_append, List.takeWhile_append_dropWhile, zero]
  · refine ⟨[], group :: rest, ?_, rfl⟩
    rw [if_neg zero]
    rfl

theorem IsZeros.cons {place : Nat} {rest : List Nat} {run : Nat × Nat}
    (isZeros : IsZeros (place + 1) rest run) (group : Nat) :
    IsZeros place (group :: rest) run := by
  obtain ⟨front, back, rfl, isPlace⟩ := isZeros
  refine ⟨group :: front, back, rfl, ?_⟩
  rw [isPlace, List.length_cons]
  omega

/-- The longest run of zeros is one. -/
theorem isZeros_longestZeros (place : Nat) (groups : List Nat) :
    IsZeros place groups (longestZeros place groups) := by
  induction groups generalizing place with
  | nil => exact ⟨[], [], rfl, rfl⟩
  | cons group rest ih =>
      have isFront := isZeros_front place group rest
      rw [longestZeros]
      generalize (if group = 0 then 1 + (rest.takeWhile (· == 0)).length else 0) = here at isFront ⊢
      split
      · exact (ih (place + 1)).cons group
      · exact isFront

/-! ## IPv6 -/

/-- The groups of an IPv6 address. -/
structure IsGroups (groups : List Nat) : Prop where
  length_eq : groups.length = 8
  small : ∀ group ∈ groups, group < groupBound

/-- Read one side of an IPv6 address, which may be empty. -/
def readSide? (part : List Char) : Option (List Nat) :=
  if part.isEmpty then some [] else ipv6Groups? (pieces (· == ':') part)

theorem lt_of_mem_readSide? {part : List Char} {groups : List Nat}
    (read : readSide? part = some groups) : ∀ group ∈ groups, group < groupBound := by
  unfold readSide? at read
  split at read
  · obtain rfl := Option.some.inj read
    simp
  · exact lt_of_mem_ipv6Groups? read

theorem readSide?_printGroups {groups : List Nat}
    (small : ∀ group ∈ groups, group < groupBound) :
    readSide? (printGroups groups) = some groups := by
  rw [readSide?]
  cases groups with
  | nil => rfl
  | cons first rest =>
      have notEmpty : ¬ (printGroups (first :: rest)).isEmpty = true := by
        rw [List.isEmpty_iff, printGroups_eq_nil_iff]
        exact List.cons_ne_nil first rest
      rw [if_neg notEmpty, pieces_printGroups (List.cons_ne_nil first rest),
        ipv6Groups?_hexDigits small]

theorem parseIpv6?_eq_some_iff_of_none {chars : List Char} {groups : List Nat}
    (whole : splitDoubleColon? chars = none) :
    parseIpv6? chars = some groups ↔ readSide? chars = some groups ∧ groups.length = 8 := by
  have opened : parseIpv6? chars =
      (readSide? chars).bind fun groups => if groups.length = 8 then some groups else none := by
    rw [parseIpv6?, whole]
    rfl
  rw [opened, Option.bind_eq_some_iff]
  constructor
  · rintro ⟨read, isRead, accepted⟩
    split at accepted
    · rename_i eight
      obtain rfl := Option.some.inj accepted
      exact ⟨isRead, eight⟩
    · exact nomatch accepted
  · rintro ⟨isRead, eight⟩
    exact ⟨groups, isRead, if_pos eight⟩

/-- The zeros between two sides that are read fill the address up. -/
theorem parseIpv6?_eq_some_iff_of_some {chars left right : List Char} {groups : List Nat}
    (sides : splitDoubleColon? chars = some (left, right)) :
    parseIpv6? chars = some groups ↔ '.' ∉ left ∧ ∃ leading trailing,
      readSide? left = some leading ∧ readSide? right = some trailing ∧
        leading.length + trailing.length ≤ 7 ∧
        groups = leading ++
          List.replicate (8 - (leading.length + trailing.length)) 0 ++ trailing := by
  have opened : parseIpv6? chars =
      if left.contains '.' then none
      else (readSide? left).bind fun leading => (readSide? right).bind fun trailing =>
        if leading.length + trailing.length ≤ 7 then
          some (leading ++ List.replicate (8 - (leading.length + trailing.length)) 0 ++ trailing)
        else none := by
    rw [parseIpv6?, sides]
    dsimp only
    split <;> rfl
  rw [opened]
  constructor
  · intro read
    split at read
    · exact nomatch read
    · rename_i noDot
      obtain ⟨leading, isLeading, read⟩ := Option.bind_eq_some_iff.mp read
      obtain ⟨trailing, isTrailing, accepted⟩ := Option.bind_eq_some_iff.mp read
      split at accepted
      · rename_i few
        obtain rfl := Option.some.inj accepted
        exact ⟨by simpa using noDot, leading, trailing, isLeading, isTrailing, few, rfl⟩
      · exact nomatch accepted
  · rintro ⟨noDot, leading, trailing, isLeading, isTrailing, few, rfl⟩
    rw [if_neg (by simpa using noDot), isLeading, Option.bind_some, isTrailing,
      Option.bind_some, if_pos few]

/-- What is read as an IPv6 address has its eight groups. -/
theorem isGroups_of_parseIpv6? {chars : List Char} {groups : List Nat}
    (read : parseIpv6? chars = some groups) : IsGroups groups := by
  cases split_eq : splitDoubleColon? chars with
  | none =>
      obtain ⟨isWhole, eight⟩ := (parseIpv6?_eq_some_iff_of_none split_eq).mp read
      exact ⟨eight, lt_of_mem_readSide? isWhole⟩
  | some sides =>
      obtain ⟨left, right⟩ := sides
      obtain ⟨_, leading, trailing, isLeading, isTrailing, few, rfl⟩ :=
        (parseIpv6?_eq_some_iff_of_some split_eq).mp read
      constructor
      · simp
        omega
      · intro group member
        rcases List.mem_append.mp member with front | inTrailing
        · rcases List.mem_append.mp front with inLeading | isZero
          · exact lt_of_mem_readSide? isLeading group inLeading
          · rw [List.eq_of_mem_replicate isZero]
            decide
        · exact lt_of_mem_readSide? isTrailing group inTrailing

theorem printIpv6_eq (groups : List Nat) :
    printIpv6 groups =
      if (longestZeros 0 groups).2 < 2 then printGroups groups
      else printGroups (groups.take (longestZeros 0 groups).1) ++ ':' :: ':' ::
        printGroups (groups.drop ((longestZeros 0 groups).1 + (longestZeros 0 groups).2)) :=
  rfl

/-- An IPv6 address holds digits and colons. -/
theorem mem_printIpv6 {groups : List Nat} {char : Char} (member : char ∈ printIpv6 groups) :
    char = ':' ∨ ∃ digit < 16, char = Nat.digitChar digit := by
  rw [printIpv6_eq] at member
  split at member
  · exact mem_printGroups member
  · rcases List.mem_append.mp member with inLeft | behind
    · exact mem_printGroups inLeft
    · rcases List.mem_cons.mp behind with isColon | behind
      · exact Or.inl isColon
      · rcases List.mem_cons.mp behind with isColon | inRight
        · exact Or.inl isColon
        · exact mem_printGroups inRight

/-- An IPv6 address is read back, whichever zeros were left out. -/
theorem parseIpv6?_printIpv6 {groups : List Nat} (isGroups : IsGroups groups) :
    parseIpv6? (printIpv6 groups) = some groups := by
  have small := isGroups.small
  rw [printIpv6_eq]
  split
  · have whole : splitDoubleColon? (printGroups groups) = none := by
      simpa [splitDoubleColon?] using splitDoubleColon?_printGroups groups []
    exact (parseIpv6?_eq_some_iff_of_none whole).mpr
      ⟨readSide?_printGroups small, isGroups.length_eq⟩
  · rename_i long
    obtain ⟨front, back, split_eq, isPlace⟩ := isZeros_longestZeros 0 groups
    rw [Nat.zero_add] at isPlace
    generalize (longestZeros 0 groups).2 = count at *
    have total : front.length + (count + back.length) = 8 := by
      rw [← isGroups.length_eq, split_eq]
      simp
    have taken : groups.take front.length = front := by
      rw [split_eq, List.take_left]
    have dropped : groups.drop (front.length + count) = back := by
      rw [split_eq, ← List.append_assoc]
      exact List.drop_left' (by simp)
    have sides : splitDoubleColon? (printGroups front ++ ':' :: ':' :: printGroups back) =
        some (printGroups front, printGroups back) := by
      simp [splitDoubleColon?_printGroups, splitDoubleColon?]
    rw [isPlace, taken, dropped]
    refine (parseIpv6?_eq_some_iff_of_some sides).mpr ⟨?_, front, back, ?_, ?_, by omega, ?_⟩
    · intro dot
      rcases mem_printGroups dot with isColon | ⟨digit, isDigit, same⟩
      · exact absurd isColon (by decide)
      · exact digitChar_ne_dot digit isDigit same.symm
    · exact readSide?_printGroups fun group member => small group (by simp [split_eq, member])
    · exact readSide?_printGroups fun group member => small group (by simp [split_eq, member])
    · have zeros : 8 - (front.length + back.length) = count := by omega
      rw [zeros, List.append_assoc]
      exact split_eq

end PublicSite.Url
