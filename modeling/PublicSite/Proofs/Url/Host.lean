import PublicSite.Proofs.Url.Address
import PublicSite.Proofs.Url.Domain
import PublicSite.Proofs.Url.Percent
import PublicSite.Url.Host

/-!
# Hosts and their reading

A host that was read from a special scheme is read again from its own text, whether it
is a name in ASCII form or an address.  Its text holds none of the characters that
delimit a host, except that an IPv6 address stands in brackets with its colons.
-/

namespace PublicSite.Url

open PublicSite.Text

/-! ## Characters -/

/-- A character that shows: ASCII, and neither a control character nor the space. -/
def isVisible (char : Char) : Bool :=
  0x20 < char.toNat && char.toNat < 0x7F

/-- A character that neither ends a host nor separates it from what stands around it. -/
def isHostChar (char : Char) : Bool :=
  isVisible char && !"/\\?#@".toList.contains char

/-- A character of a host without brackets. -/
def isNameChar (char : Char) : Bool :=
  isHostChar char && !":[]".toList.contains char

/-- What may stand in a domain name delimits no host. -/
theorem isNameChar_of_clean : ∀ char, Domain.isAscii char = true →
    Domain.isForbidden char = false → isNameChar char = true :=
  Domain.forall_ascii (by decide)

theorem isHostChar_of_isNameChar {char : Char} (isName : isNameChar char = true) :
    isHostChar char = true :=
  (Bool.and_eq_true_iff.mp isName).1

theorem host_digitChar : ∀ digit < 16, isHostChar (Nat.digitChar digit) = true ∧
    Nat.digitChar digit ≠ '[' ∧ Nat.digitChar digit ≠ ']' := by
  decide

/-! ## Texts of hosts -/

/-- Digits and dots are read as themselves, and do not begin the sign of Punycode. -/
theorem plain_of_isDigit : ∀ char, Domain.isAscii char = true →
    char = '.' ∨ char.isDigit = true →
      char.toLower = char ∧ Domain.isForbidden char = false ∧ char ≠ 'x' :=
  Domain.forall_ascii (by decide)

theorem plain_of_mem_printIpv4 {address : Nat} {char : Char}
    (member : char ∈ printIpv4 address) : Domain.isAscii char = true ∧ char.toLower = char ∧
      Domain.isForbidden char = false ∧ char ≠ 'x' := by
  have dotOrDigit := mem_printIpv4 member
  have ascii : Domain.isAscii char = true := by
    rcases dotOrDigit with rfl | isDigit
    · decide
    · exact Domain.isAscii_of_isAlphanum (by rw [Char.isAlphanum, isDigit, Bool.or_true])
  exact ⟨ascii, plain_of_isDigit char ascii dotOrDigit⟩

/-- The text of an IPv4 address is its own ASCII form. -/
theorem toAscii?_printIpv4 (address : Nat) :
    Domain.toAscii? (printIpv4 address) = some (printIpv4 address) := by
  have lower : asciiLower (printIpv4 address) = printIpv4 address :=
    Domain.asciiLower_eq_self fun char member => (plain_of_mem_printIpv4 member).2.1
  have noMark : (Domain.labels (printIpv4 address)).any Domain.punycodeMark.isPrefixOf = false := by
    refine List.any_eq_false.mpr fun label isLabel marked => ?_
    have begins : 'x' ∈ label := (List.isPrefixOf_iff_prefix.mp marked).subset (by decide)
    exact (plain_of_mem_printIpv4 (mem_of_mem_pieces isLabel begins)).2.2.2 rfl
  have plain : Domain.isPlain (printIpv4 address) = true := by
    rw [Domain.isPlain, lower, noMark, Bool.not_false, Bool.and_true]
    exact List.all_eq_true.mpr fun char member => (plain_of_mem_printIpv4 member).1
  have form : Domain.asciiForm? (printIpv4 address) = some (printIpv4 address) := by
    rw [Domain.asciiForm?, if_pos plain, lower]
  exact Domain.toAscii?_eq_some_iff.mpr
    ⟨form, fun char member => (plain_of_mem_printIpv4 member).2.2.1⟩

namespace Host

/-- A host in the form in which reading leaves it. -/
inductive IsRead : Host → Prop
  | domain {name : List Char} (notEmpty : name ≠ [])
      (ascii : Domain.toAscii? name = some name) (isName : endsInNumber name = false) :
      IsRead (.domain name)
  | ipv4 {address : Nat} (small : address < ipv4Bound) : IsRead (.ipv4 address)
  | ipv6 {groups : List Nat} (isGroups : IsGroups groups) : IsRead (.ipv6 groups)

theorem isRead_of_parseBracketed {chars : List Char} {host : Host}
    (read : parseBracketed chars = .ok host) : IsRead host := by
  unfold parseBracketed at read
  split at read
  · split at read
    · rename_i isIpv6
      obtain rfl := Except.ok.inj read
      exact .ipv6 (isGroups_of_parseIpv6? isIpv6)
    · exact nomatch read
  · exact nomatch read

theorem isRead_of_ofAscii {name : List Char} {host : Host}
    (ascii : Domain.toAscii? name = some name) (read : ofAscii name = .ok host) : IsRead host := by
  unfold ofAscii at read
  split at read
  · exact nomatch read
  · rename_i notEmpty
    split at read
    · split at read
      · rename_i isIpv4
        obtain rfl := Except.ok.inj read
        exact .ipv4 (parseIpv4?_lt isIpv4)
      · exact nomatch read
    · rename_i isName
      obtain rfl := Except.ok.inj read
      exact .domain (by simpa using notEmpty) ascii (Bool.eq_false_iff.mpr isName)

/-- What is read is a host that can be read again. -/
theorem isRead_of_parseSpecial {chars : List Char} {host : Host}
    (read : parseSpecial chars = .ok host) : IsRead host := by
  unfold parseSpecial at read
  split at read
  · exact isRead_of_parseBracketed read
  · split at read
    · exact nomatch read
    · rename_i ascii
      exact isRead_of_ofAscii (Domain.toAscii?_toAscii? ascii) read

/-- A name that is its own ASCII form is decoded to itself. -/
theorem parseSpecial_of_toAscii? {name : List Char} (ascii : Domain.toAscii? name = some name) :
    parseSpecial name = ofAscii name := by
  have clean := Domain.clean_of_toAscii? ascii
  have unmarked : '%' ∉ name := fun member => absurd (clean _ member).2 (by decide)
  have decoded : Utf8.decodeLossy (percentDecode name) = name := by
    rw [percentDecode_of_not_mem unmarked, Utf8.decodeLossy_encode]
  unfold parseSpecial
  split
  · exact absurd (clean '[' List.mem_cons_self).2 (by decide)
  · rw [decoded, ascii]

/-- A host is read again from its text. -/
theorem IsRead.parseSpecial_print {host : Host} (isRead : IsRead host) :
    parseSpecial host.print = .ok host := by
  cases isRead with
  | @domain name notEmpty ascii isName =>
      rw [print, parseSpecial_of_toAscii? ascii, ofAscii, if_neg (by simpa using notEmpty),
        if_neg (by simp [isName])]
  | @ipv4 address small =>
      have notEmpty : printIpv4 address ≠ [] := by simp [printIpv4, join]
      rw [print, parseSpecial_of_toAscii? (toAscii?_printIpv4 address), ofAscii,
        if_neg (by simpa using notEmpty), if_pos (endsInNumber_printIpv4 address),
        parseIpv4?_printIpv4 small]
  | @ipv6 groups isGroups =>
      change parseBracketed (printIpv6 groups ++ [']']) = _
      have turned : (printIpv6 groups ++ [']']).reverse = ']' :: (printIpv6 groups).reverse := by
        simp
      rw [parseBracketed, turned]
      simp only [List.reverse_reverse, parseIpv6?_printIpv6 isGroups]

theorem IsRead.print_ne_nil {host : Host} (isRead : IsRead host) : host.print ≠ [] := by
  cases isRead with
  | domain notEmpty => exact notEmpty
  | ipv4 => simp [print, printIpv4, join]
  | ipv6 => simp [print]

/-- A host is a name in which nothing delimits a host, or it stands in brackets. -/
theorem IsRead.print_cases {host : Host} (isRead : IsRead host) :
    (∀ char ∈ host.print, isNameChar char = true) ∨
      ∃ inside, host.print = '[' :: inside ++ [']'] ∧
        ∀ char ∈ inside, isHostChar char = true ∧ char ≠ '[' ∧ char ≠ ']' := by
  cases isRead with
  | domain _ ascii =>
      refine Or.inl fun char member => ?_
      obtain ⟨isAscii, clean⟩ := Domain.clean_of_toAscii? ascii char member
      exact isNameChar_of_clean char isAscii clean
  | ipv4 =>
      refine Or.inl fun char member => ?_
      obtain ⟨isAscii, _, clean, _⟩ := plain_of_mem_printIpv4 member
      exact isNameChar_of_clean char isAscii clean
  | @ipv6 groups =>
      refine Or.inr ⟨printIpv6 groups, rfl, fun char member => ?_⟩
      rcases mem_printIpv6 member with rfl | ⟨digit, small, rfl⟩
      · decide
      · exact host_digitChar digit small

theorem IsRead.isHostChar {host : Host} (isRead : IsRead host) :
    ∀ char ∈ host.print, Url.isHostChar char = true := by
  intro char member
  rcases isRead.print_cases with isName | ⟨inside, written, within⟩
  · exact isHostChar_of_isNameChar (isName char member)
  · rw [written] at member
    rcases List.mem_append.mp member with front | closing
    · rcases List.mem_cons.mp front with rfl | inInside
      · decide
      · exact (within char inInside).1
    · obtain rfl := List.mem_singleton.mp closing
      decide

/-- Only the name of this machine is written so, in capital letters or small ones. -/
theorem IsRead.eq_localhost {host : Host} (isRead : IsRead host)
    (named : asciiLower host.print = "localhost".toList) :
    host = .domain "localhost".toList := by
  cases isRead with
  | domain _ ascii => rw [← named, print, Domain.asciiLower_of_toAscii? ascii]
  | @ipv4 address =>
      have lower : asciiLower (printIpv4 address) = printIpv4 address :=
        Domain.asciiLower_eq_self fun char member => (plain_of_mem_printIpv4 member).2.1
      have begins : 'l' ∈ printIpv4 address := by
        rw [← lower, ← print, named]
        decide
      rcases mem_printIpv4 begins with isDot | isDigit
      · exact absurd isDot (by decide)
      · exact absurd isDigit (by decide)
  | ipv6 => exact absurd (List.cons.inj named).1 (by decide)

end Host

end PublicSite.Url
