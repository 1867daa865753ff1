import PublicSite.Proofs.Url.Printing

/-!
# The origins of web addresses

The host of a web address that can be read is not empty and holds no slash, in
whatever form it was given.  So the origin of such an address ends in something
other than a slash, and a path can be put right behind it.  An origin is read again as
the address without its user and everything behind its place, and it is the same for
two addresses of one scheme, host and port.
-/

namespace PublicSite.Url

open PublicSite.Text

/-! ## Hosts -/

/-- A text that can stand between the two slashes of an address and its path. -/
structure IsAuthority (chars : List Char) : Prop where
  notEmpty : chars ≠ []
  noSlash : '/' ∉ chars

theorem IsAuthority.append {front back : List Char} (isAuthority : IsAuthority front)
    (noSlash : '/' ∉ back) : IsAuthority (front ++ back) :=
  ⟨by simp [isAuthority.notEmpty], by simp [isAuthority.noSlash, noSlash]⟩

/-- The host of a special scheme is one, whatever form it was given in. -/
theorem Host.IsRead.isAuthority {host : Host} (isRead : IsRead host) : IsAuthority host.print :=
  ⟨isRead.print_ne_nil, fun slash => absurd (isRead.isHostChar '/' slash) (by decide)⟩

/-! ## Addresses -/

/-- An address of a special scheme has a host, unless it is that of a file. -/
theorem exists_host_of_parseChars {chars : List Char} {url : Url}
    (read : parseChars chars = .ok url) (special : isSpecial url.scheme = true)
    (notFile : url.scheme ≠ "file".toList) :
    ∃ host, url.host = some host ∧ IsAuthority host.print := by
  obtain ⟨host, isHost, isRead⟩ := (isRead_of_parseChars read special notFile).host
  exact ⟨host, isHost, isRead.isAuthority⟩

theorem slash_not_mem_printPort (url : Url) : '/' ∉ url.printPort := by
  unfold Url.printPort
  split
  · exact List.not_mem_cons_of_ne_of_not_mem (by decide) (not_mem_decimalDigits (by decide) _)
  · exact List.not_mem_nil

/-- The origin of an address with a host is an authority behind two slashes. -/
theorem origin_eq {url : Url} {host : Host} (isHost : url.host = some host)
    (isAuthority : IsAuthority host.print) :
    ∃ authority, IsAuthority authority ∧
      url.origin = url.scheme ++ "://".toList ++ authority := by
  refine ⟨host.print ++ url.printPort, isAuthority.append (slash_not_mem_printPort url), ?_⟩
  rw [Url.origin, isHost]
  simp only [List.append_assoc]

/-! ## Reading an origin -/

/-- The address of the scheme and the place of a URL alone. -/
def root (url : Url) : Url :=
  { url with username := [], password := none, path := ['/'], query := none, fragment := none }

theorem IsRead.root {url : Url} (isRead : IsRead url) : IsRead url.root where
  special := isRead.special
  notFile := isRead.notFile
  user := ⟨isEncoded_nil _, nofun⟩
  host := isRead.host
  port := isRead.port
  path := ⟨[[]], areRead_root, rfl⟩
  tail := ⟨nofun, nofun⟩

/-- An origin is the text of its address up to the path. -/
theorem origin_eq_append {url : Url} {host : Host} (isHost : url.host = some host) :
    url.origin = (url.root.scheme ++ ':' :: '/' :: '/' :: authorityText url.root host) ++ [] := by
  simp [Url.origin, isHost, Url.root, authorityText, Url.printUser, Url.printPort]

/-- An origin is read as the address that has nothing else. -/
theorem IsRead.parseChars_origin {url : Url} (isRead : IsRead url) :
    parseChars url.origin = .ok url.root := by
  obtain ⟨host, isHost, -⟩ := isRead.host
  rw [origin_eq_append isHost, isRead.root.parseChars_authorityText isHost (by simp) (by simp)]
  rfl

/-- Every character of an origin shows. -/
theorem IsRead.isVisible_origin {url : Url} (isRead : IsRead url) :
    ∀ char ∈ url.origin, Url.isVisible char = true := by
  obtain ⟨host, isHost, -⟩ := isRead.host
  rw [origin_eq_append isHost, List.append_nil]
  exact isRead.root.isVisible_front isHost

/-- The port that an address leads to. -/
def effectivePort (url : Url) : Option Nat :=
  url.port.or (defaultPort? url.scheme)

/-- A port is written just when it is not the one that the scheme has anyway. -/
theorem IsRead.port_eq {url other : Url} (isRead : IsRead url) (otherIsRead : IsRead other)
    (sameScheme : url.scheme = other.scheme) (samePort : url.effectivePort = other.effectivePort) :
    url.port = other.port := by
  have notDefault := fun value isPort => (isRead.port value isPort).2
  have otherNotDefault := fun value isPort => (otherIsRead.port value isPort).2
  rw [effectivePort, effectivePort, sameScheme] at samePort
  rw [sameScheme] at notDefault
  cases port : url.port with
  | none =>
      cases otherPort : other.port with
      | none => rfl
      | some value =>
          rw [port, otherPort] at samePort
          exact absurd samePort (otherNotDefault value otherPort)
  | some value =>
      cases otherPort : other.port with
      | none =>
          rw [port, otherPort] at samePort
          exact absurd samePort.symm (notDefault value port)
      | some otherValue =>
          rw [port, otherPort] at samePort
          exact samePort

/-- The origin of an address is known from its scheme, its host and the port that it leads
to. -/
theorem IsRead.origin_eq_origin {url other : Url} (isRead : IsRead url)
    (otherIsRead : IsRead other) (sameScheme : url.scheme = other.scheme)
    (sameHost : url.host = other.host) (samePort : url.effectivePort = other.effectivePort) :
    url.origin = other.origin := by
  rw [Url.origin, Url.origin, Url.printPort, Url.printPort, sameScheme, sameHost,
    isRead.port_eq otherIsRead sameScheme samePort]

end PublicSite.Url
