import PublicSite.Proofs.Link.Public
import PublicSite.Proofs.Seo.Origin

/-!
# The normal form of an origin

An origin is reduced to its scheme, its host and perhaps a port.  What was reduced once is
reduced again to itself, and all that an address has besides makes no difference.
-/

namespace PublicSite.Seo

open PublicSite.Text PublicSite.Url

/-! ## The normal form -/

/-- A port as it is written, when it is. -/
def portText (port : Option Nat) : List Char :=
  (port.map fun value => ':' :: decimalDigits value).getD []

/-- An origin in its normal form with its host: the scheme, the host, perhaps a port that is
not the one of the scheme, and nothing else. -/
structure IsReduced (origin host : String) : Prop where
  written : ∃ scheme ∈ ["http", "https"], ∃ port,
    origin = scheme ++ "://" ++ host ++ String.ofList (portText port) ∧
      ∀ value ∈ port, value ≤ 65535 ∧ defaultPort? scheme.toList ≠ some value
  hostGiven : host ≠ ""
  undelimited : ∀ char ∈ host.toList, char ∉ "/\\?#@".toList
  openEnd : ¬ ['/'] <:+ origin.toList
  bare : ∃ url, Url.parse origin = .ok url ∧ url.username = [] ∧ url.password = none ∧
    url.path = ['/'] ∧ url.query = none ∧ url.fragment = none

variable {url : Url}

/-- The origin of a web address is written so. -/
theorem origin_eq_of_isWeb (web : IsWeb url) {host : Host} (isHost : url.host = some host) :
    ∃ scheme ∈ ["http", "https"], url.scheme = scheme.toList ∧
      String.ofList url.origin =
        scheme ++ "://" ++ String.ofList host.print ++ String.ofList (portText url.port) := by
  have written : ∀ scheme : String, url.scheme = scheme.toList → String.ofList url.origin =
      scheme ++ "://" ++ String.ofList host.print ++ String.ofList (portText url.port) := by
    intro scheme isScheme
    rw [Url.origin, isHost, isScheme, Url.printPort, portText]
    cases url.port <;> simp [String.ext_iff]
  rcases web with isScheme | isScheme
  · exact ⟨"http", by simp, isScheme, written _ isScheme⟩
  · exact ⟨"https", by simp, isScheme, written _ isScheme⟩

theorem not_slash_suffix_origin (isRead : url.IsRead) : ¬ ['/'] <:+ url.origin := by
  obtain ⟨host, isHost, hostRead⟩ := isRead.host
  obtain ⟨authority, isAuthority, written⟩ := origin_eq isHost hostRead.isAuthority
  rw [written, ← dropEndWhile_slash_of_isAuthority isAuthority]
  exact not_suffix_dropEndWhile rfl _

theorem isReduced_of_isRead (isRead : url.IsRead) (web : IsWeb url) :
    IsReduced (String.ofList url.origin)
      (String.ofList ((url.host.map Host.print).getD [])) := by
  obtain ⟨host, isHost, hostRead⟩ := isRead.host
  rw [isHost]
  constructor
  case written =>
    obtain ⟨scheme, isScheme, scheme_eq, written⟩ := origin_eq_of_isWeb web isHost
    exact ⟨scheme, isScheme, url.port, written, scheme_eq ▸ isRead.port⟩
  case hostGiven =>
    simpa [String.ext_iff] using hostRead.print_ne_nil
  case undelimited =>
    intro char member delimits
    rw [String.toList_ofList] at member
    have plain := (Bool.and_eq_true_iff.mp (hostRead.isHostChar char member)).2
    rw [List.contains_iff_mem.mpr delimits] at plain
    exact nomatch plain
  case openEnd =>
    rw [String.toList_ofList]
    exact not_slash_suffix_origin isRead
  case bare =>
    refine ⟨url.root, ?_, rfl, rfl, rfl, rfl, rfl⟩
    rw [Url.parse, String.toList_ofList, isRead.parseChars_origin]

/-- An origin is reduced to itself. -/
theorem normalizeOrigin_origin (isRead : url.IsRead) (web : IsWeb url) :
    normalizeOrigin (String.ofList url.origin) =
      .ok (String.ofList url.origin, String.ofList ((url.host.map Host.print).getD [])) := by
  have kept : trimmed (String.ofList url.origin) = String.ofList url.origin := by
    rw [trimmed, String.toList_ofList, trim_of_no_blank fun char member =>
      not_blank_of_isVisible (isRead.isVisible_origin char member)]
  have read : Url.parse (trimmed (String.ofList url.origin)) = .ok url.root := by
    rw [kept, Url.parse, String.toList_ofList, isRead.parseChars_origin]
  have rootWeb : IsWeb url.root := web
  have reduced := normalizeOrigin_of_isWeb read rootWeb
  exact reduced

/-! ## Reducing an origin -/

/-- What a text is reduced to is in the normal form, and it is reduced to itself.  A web
address with the same scheme, host and port is reduced to the same origin, whatever it has
besides.  A text that is no address without the white space around it is refused for that
reason, and an address of another scheme for its scheme. -/
theorem normalizeOrigin_projects (text : String) :
    (∀ origin host, normalizeOrigin text = .ok (origin, host) →
      IsReduced origin host ∧ normalizeOrigin origin = .ok (origin, host)) ∧
      (∀ url, Url.parse (trimmed text) = .ok url → IsWeb url →
        ∀ other otherUrl, Url.parse (trimmed other) = .ok otherUrl →
          otherUrl.scheme = url.scheme → otherUrl.host = url.host →
          otherUrl.effectivePort = url.effectivePort →
          ∃ found, normalizeOrigin text = .ok found ∧ normalizeOrigin other = .ok found) ∧
      (∀ cause, Url.parse (trimmed text) = .error cause →
        normalizeOrigin text =
          .error { cause := .origin cause, context := some "site.origin" }) ∧
      ∀ url, Url.parse (trimmed text) = .ok url → ¬ IsWeb url →
        normalizeOrigin text =
          .error {
            cause := .unsupportedOrigin
              ("expected http or https, got '" ++ String.ofList url.scheme ++ "'")
            context := some "site.origin" } := by
  refine ⟨?projection, ?others, fun cause => normalizeOrigin_of_error,
    fun url => normalizeOrigin_of_not_isWeb⟩
  case projection =>
    intro origin host accepted
    obtain ⟨url, read, web, rfl, rfl⟩ := exists_isWeb_of_normalizeOrigin accepted
    have isRead := isRead_of_parseChars read web.isSpecial.1 web.isSpecial.2
    exact ⟨isReduced_of_isRead isRead web, normalizeOrigin_origin isRead web⟩
  case others =>
    intro url read web other otherUrl otherRead sameScheme sameHost samePort
    refine ⟨_, normalizeOrigin_of_isWeb read web, ?_⟩
    have otherWeb : IsWeb otherUrl := by rwa [IsWeb, sameScheme]
    have isRead := isRead_of_parseChars read web.isSpecial.1 web.isSpecial.2
    have otherIsRead :=
      isRead_of_parseChars otherRead otherWeb.isSpecial.1 otherWeb.isSpecial.2
    rw [normalizeOrigin_of_isWeb otherRead otherWeb, sameHost,
      otherIsRead.origin_eq_origin isRead sameScheme sameHost samePort]

/-- Two texts of one origin, a text that is no address, and an address of files. -/
theorem normalizeOrigin_projects_user :
    let text := " HTTPS://me@Example.com:443/a/?b#c "
    let url : Url :=
      ⟨"https".toList, "me".toList, none, some (.domain "example.com".toList), none,
        "/a/".toList, some ['b'], some ['c']⟩
    let files : Url :=
      ⟨"file".toList, [], none, some (.domain []), none, "/a".toList, none, none⟩
    Url.parse (trimmed text) = .ok url ∧
      Url.parse (trimmed "https://example.com") = .ok url.root ∧
      normalizeOrigin text = .ok ("https://example.com", "example.com") ∧
      IsReduced "https://example.com" "example.com" ∧
      (∃ found, normalizeOrigin text = .ok found ∧
        normalizeOrigin "https://example.com" = .ok found) ∧
      normalizeOrigin "example.com" =
        .error { cause := .origin .relativeWithoutBase, context := some "site.origin" } ∧
      Url.parse (trimmed "file:///a") = .ok files ∧
      normalizeOrigin "file:///a" =
        .error {
          cause := .unsupportedOrigin "expected http or https, got 'file'"
          context := some "site.origin" } := by
  intro text url files
  have read : Url.parse (trimmed text) = .ok url := by decide +kernel
  have otherRead : Url.parse (trimmed "https://example.com") = .ok url.root := by decide +kernel
  have accepted : normalizeOrigin text = .ok ("https://example.com", "example.com") := by
    decide +kernel
  have filesRead : Url.parse (trimmed "file:///a") = .ok files := by decide +kernel
  have malformed : Url.parse (trimmed "example.com") = .error .relativeWithoutBase := by
    decide +kernel
  have notWeb : ¬ IsWeb files := by simp [IsWeb, files]
  obtain ⟨projection, others, -, -⟩ := normalizeOrigin_projects text
  exact ⟨read, otherRead, accepted, (projection _ _ accepted).1,
    others url read (Or.inr rfl) _ _ otherRead rfl rfl rfl,
    (normalizeOrigin_projects "example.com").2.2.1 _ malformed, filesRead,
    (normalizeOrigin_projects "file:///a").2.2.2 files filesRead notWeb⟩

/-- White space that no address may begin with is taken off before the text is read. -/
theorem normalizeOrigin_of_no_address :
    let text := "\u00a0https://example.com"
    Url.parse text = .error .relativeWithoutBase ∧
      normalizeOrigin text = .ok ("https://example.com", "example.com") := by
  decide +kernel

end PublicSite.Seo
