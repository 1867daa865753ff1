import PublicSite.Link.Public
import PublicSite.Proofs.Text.Trimming
import PublicSite.Proofs.Url.Printing

/-!
# Addresses in place of host names

Two hosts are of one site when the last two of their labels agree.  An IPv4 address has
labels too, its four bytes, so two of them pass for one site when their last two bytes
agree, and the first two bytes do not matter.
-/

namespace PublicSite.Link

open PublicSite.Text PublicSite.Url

/-! ## Labels of addresses -/

/-- The bytes of an address are its labels. -/
theorem fields_printIpv4 (address : Nat) :
    fields (· == '.') (printIpv4 address) = (ipv4Bytes address).map decimalDigits := by
  rw [printIpv4_eq]
  refine fields_join rfl fun label member => ?_
  obtain ⟨byte, -, rfl⟩ := List.mem_map.mp member
  exact ⟨decimalDigits_ne_nil byte,
    beq_eq_false_of_not_mem (not_mem_decimalDigits (by decide) byte)⟩

/-- Nothing is trimmed of an address. -/
theorem trim_printIpv4 (address : Nat) : trim (printIpv4 address) = printIpv4 address := by
  refine trim_of_no_blank fun char member => ?_
  obtain ⟨ascii, -, clean, -⟩ := plain_of_mem_printIpv4 member
  have isHost := isHostChar_of_isNameChar (isNameChar_of_clean char ascii clean)
  exact not_blank_of_isVisible (plain_of_isHostChar isHost).1

/-- An address does not end in a dot. -/
theorem dropEndWhile_printIpv4 (address : Nat) :
    dropEndWhile (· == '.') (printIpv4 address) = printIpv4 address := by
  have kept : dropEndWhile (· == '.') (decimalDigits (address % 256)) =
      decimalDigits (address % 256) := by
    refine List.rdropWhile_eq_self_iff.mpr fun notEmpty isDot => ?_
    have last := isDigit_of_mem_decimalDigits (List.getLast_mem notEmpty)
    rw [beq_iff_eq.mp isDot] at last
    exact absurd last (by decide)
  have whole : printIpv4 address =
      join ['.'] ((ipv4Bytes address).dropLast.map decimalDigits) ++ ['.'] ++
        decimalDigits (address % 256) := by
    simp [printIpv4_eq, ipv4Bytes, join]
  rw [whole, dropEndWhile_append_of_kept kept (decimalDigits_ne_nil _)]

/-- An address passes for a name of which the last two bytes are the root domain. -/
theorem rootDomain?_printIpv4 (address : Nat) :
    rootDomain? (printIpv4 address) =
      some (decimalDigits (address / 0x100 % 256) ++ '.' :: decimalDigits (address % 256)) := by
  have lower : asciiLower (printIpv4 address) = printIpv4 address :=
    Domain.asciiLower_eq_self fun char member => (plain_of_mem_printIpv4 member).2.1
  rw [rootDomain?, trim_printIpv4, dropEndWhile_printIpv4, lower, fields_printIpv4]
  rfl

/-- Two addresses have one root domain when their last two bytes agree. -/
theorem rootDomain?_printIpv4_eq_iff {address other : Nat} :
    rootDomain? (printIpv4 address) = rootDomain? (printIpv4 other) ↔
      (ipv4Bytes address).drop 2 = (ipv4Bytes other).drop 2 := by
  have noDot : ∀ byte, ∀ char ∈ decimalDigits byte, (char == '.') = false := fun byte =>
    beq_eq_false_of_not_mem (not_mem_decimalDigits (by decide) byte)
  rw [rootDomain?_printIpv4, rootDomain?_printIpv4, Option.some_inj]
  constructor
  · intro same
    have cut := congrArg (splitOnce? (· == '.')) same
    rw [splitOnce?_append (noDot _) rfl, splitOnce?_append (noDot _) rfl] at cut
    obtain ⟨third, fourth⟩ := Prod.mk.inj (Option.some.inj cut)
    simp [ipv4Bytes, decimalDigits_injective third, decimalDigits_injective fourth]
  · intro same
    obtain ⟨third, fourth, -⟩ : address / 0x100 % 256 = other / 0x100 % 256 ∧
        address % 256 = other % 256 ∧ True := by
      simpa [ipv4Bytes] using same
    rw [third, fourth]

/-! ## One site -/

/-- A web address is of one site with a host when it can be read and the two have one root
domain. -/
theorem isSameSite_iff {href host : List Char} {url : Url} {name : Host}
    (web : isHttp href = true) (read : parseChars (trim href) = .ok url)
    (isHost : url.host = some name) :
    isSameSite href host = true ↔
      ∃ root, rootDomain? host = some root ∧ rootDomain? name.print = some root := by
  rw [isSameSite, web, read, Bool.true_and]
  cases rootDomain? host with
  | none => simp
  | some root => simp [isHost]

/-- A web address whose host is an IPv4 address is of one site with another IPv4 address
exactly when their last two bytes agree. -/
theorem isSameSite_printIpv4_iff {href : List Char} {url : Url} {address : Nat}
    (web : isHttp href = true) (read : parseChars (trim href) = .ok url)
    (isHost : url.host = some (.ipv4 address)) (current : Nat) :
    isSameSite href (printIpv4 current) = true ↔
      (ipv4Bytes address).drop 2 = (ipv4Bytes current).drop 2 := by
  rw [isSameSite_iff web read isHost, ← rootDomain?_printIpv4_eq_iff, Host.print]
  constructor
  · rintro ⟨root, ofCurrent, ofAddress⟩
    rw [ofCurrent, ofAddress]
  · intro same
    exact ⟨_, rootDomain?_printIpv4 current, same.trans (rootDomain?_printIpv4 current)⟩

/-- The address of a machine on the web, without anything else. -/
def addressOf (address : Nat) : Url where
  scheme := "http".toList
  username := []
  password := none
  host := some (.ipv4 address)
  port := none
  path := ['/']
  query := none
  fragment := none

/-- Of two machines whose addresses begin alike neither is of the other's site. -/
theorem isSameSite_printIpv4_iff_apart :
    let href := "http://192.168.1/".toList
    isHttp href = true ∧ parseChars (trim href) = .ok (addressOf 0xC0A80001) ∧
      printIpv4 0xC0A80203 = "192.168.2.3".toList ∧
      isSameSite href (printIpv4 0xC0A80203) = false := by
  intro href
  have web : isHttp href = true := by decide
  have read : parseChars (trim href) = .ok (addressOf 0xC0A80001) := by decide +kernel
  refine ⟨web, read, by decide +kernel, ?_⟩
  rw [Bool.eq_false_iff, ne_eq, isSameSite_printIpv4_iff web read rfl]
  decide

/-- Two machines whose addresses end alike pass for one site, although they have nothing to
do with each other. -/
theorem isSameSite_of_other_address :
    let href := "http://10.0.0.1/".toList
    isHttp href = true ∧ parseChars (trim href) = .ok (addressOf 0x0A000001) ∧
      printIpv4 0xC0A80001 = "192.168.0.1".toList ∧ 0x0A000001 ≠ 0xC0A80001 ∧
      isSameSite href "192.168.0.1".toList = true := by
  decide +kernel

end PublicSite.Link
