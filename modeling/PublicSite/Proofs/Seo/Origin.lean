import PublicSite.Proofs.Failure
import PublicSite.Proofs.Url.Origin
import PublicSite.Seo.Site

/-!
# Absolute addresses of the site

The origin that the site keeps ends in no slash, so an absolute address is just
the origin and the path.
-/

namespace PublicSite

open PublicSite.Text PublicSite.Url

namespace Seo

/-- No slash stands at the end of an authority. -/
theorem dropEndWhile_slash_of_isAuthority {authority : List Char}
    (isAuthority : IsAuthority authority) (front : List Char) :
    dropEndWhile (· == '/') (front ++ authority) = front ++ authority := by
  have kept : dropEndWhile (· == '/') authority = authority := by
    refine List.rdropWhile_eq_self_iff.mpr fun notEmpty isSlash => isAuthority.noSlash ?_
    rw [← beq_iff_eq.mp isSlash]
    exact List.getLast_mem notEmpty
  exact dropEndWhile_append_of_kept kept isAuthority.notEmpty front

theorem withoutSlashes_of_isAuthority {front authority : List Char}
    (isAuthority : IsAuthority authority) :
    withoutSlashes (String.ofList (front ++ authority)) = String.ofList (front ++ authority) := by
  rw [withoutSlashes, String.toList_ofList, dropEndWhile_slash_of_isAuthority isAuthority]

/-- An address of the web. -/
def IsWeb (url : Url) : Prop :=
  url.scheme = "http".toList ∨ url.scheme = "https".toList

theorem IsWeb.isSpecial {url : Url} (web : IsWeb url) :
    isSpecial url.scheme = true ∧ url.scheme ≠ "file".toList := by
  rcases web with isScheme | isScheme <;> rw [isScheme] <;> decide

/-- A text that is no address is refused for what is wrong with it. -/
theorem normalizeOrigin_of_error {text : String} {cause : ParseError}
    (malformed : Url.parse (trimmed text) = .error cause) :
    normalizeOrigin text =
      .error { cause := .origin cause, context := some "site.origin" } := by
  rw [normalizeOrigin, malformed]
  rfl

variable {text origin host : String} {url : Url}

theorem isWeb_iff :
    (String.ofList url.scheme == "http" || String.ofList url.scheme == "https") = true ↔
      IsWeb url := by
  simp [IsWeb, String.ext_iff]

/-- An address of another scheme is refused. -/
theorem normalizeOrigin_of_not_isWeb (read : Url.parse (trimmed text) = .ok url)
    (notWeb : ¬ IsWeb url) :
    normalizeOrigin text =
      .error {
        cause := .unsupportedOrigin
          ("expected http or https, got '" ++ String.ofList url.scheme ++ "'")
        context := some "site.origin" } := by
  rw [normalizeOrigin, read]
  exact if_neg (mt isWeb_iff.mp notWeb)

/-- An address of the web is reduced to its origin, with its host. -/
theorem normalizeOrigin_of_isWeb (read : Url.parse (trimmed text) = .ok url) (web : IsWeb url) :
    normalizeOrigin text =
      .ok (String.ofList url.origin, String.ofList ((url.host.map Host.print).getD [])) := by
  rw [normalizeOrigin, read]
  exact if_pos (isWeb_iff.mpr web)

/-- Nothing else is reduced. -/
theorem exists_isWeb_of_normalizeOrigin (accepted : normalizeOrigin text = .ok (origin, host)) :
    ∃ url, Url.parse (trimmed text) = .ok url ∧ IsWeb url ∧ origin = String.ofList url.origin ∧
      host = String.ofList ((url.host.map Host.print).getD []) := by
  cases read : Url.parse (trimmed text) with
  | error cause =>
      rw [normalizeOrigin_of_error read] at accepted
      exact nomatch accepted
  | ok url =>
      by_cases web : IsWeb url
      · rw [normalizeOrigin_of_isWeb read web] at accepted
        obtain ⟨rfl, rfl⟩ := Prod.mk.inj (Except.ok.inj accepted)
        exact ⟨url, rfl, web, rfl, rfl⟩
      · rw [normalizeOrigin_of_not_isWeb read web] at accepted
        exact nomatch accepted

/-- Only a web address is kept as an origin, and its host is not empty. -/
theorem origin_of_normalizeOrigin (accepted : normalizeOrigin text = .ok (origin, host)) :
    ∃ front authority, IsAuthority authority ∧ origin = String.ofList (front ++ authority) := by
  obtain ⟨url, read, web, rfl, -⟩ := exists_isWeb_of_normalizeOrigin accepted
  obtain ⟨name, isHost, isAuthority⟩ :=
    exists_host_of_parseChars read web.isSpecial.1 web.isSpecial.2
  obtain ⟨authority, isAuthority, origin_eq⟩ := origin_eq isHost isAuthority
  exact ⟨_, authority, isAuthority, by rw [← origin_eq]⟩

/-- Nothing is taken off such an origin. -/
theorem absolute_of_normalizeOrigin
    (accepted : normalizeOrigin text = .ok (origin, host)) (href : String) :
    absolute origin href = origin ++ href := by
  obtain ⟨front, authority, isAuthority, rfl⟩ := origin_of_normalizeOrigin accepted
  rw [absolute, withoutSlashes_of_isAuthority isAuthority]

variable {config : Config} {seo : Seo}

theorem ofConfig_ok (accepted : ofConfig config = .ok seo) :
    (∃ host, normalizeOrigin config.site.origin = .ok (seo.origin, host)) ∧
      seo.defaultLocale = config.site.defaultLocale := by
  obtain ⟨⟨origin, host⟩, normalized, finished⟩ := bind_eq_ok accepted
  rw [← Except.ok.inj finished]
  exact ⟨⟨host, normalized⟩, rfl⟩

theorem absolute_origin (accepted : ofConfig config = .ok seo) (href : String) :
    absolute seo.origin href = seo.origin ++ href := by
  obtain ⟨host, normalized⟩ := (ofConfig_ok accepted).1
  exact absolute_of_normalizeOrigin normalized href

/-- The origin of a site that configures nothing. -/
theorem ofConfig_empty :
    ∃ seo, ofConfig {} = .ok seo ∧ seo.origin = "https://www.evolvesprouts.com" := by
  have origin_eq : (ofConfig {}).toOption.map Seo.origin =
      some "https://www.evolvesprouts.com" := by
    decide +kernel
  cases accepted : ofConfig {} with
  | error failure =>
      rw [accepted] at origin_eq
      exact nomatch origin_eq
  | ok seo =>
      rw [accepted] at origin_eq
      exact ⟨seo, rfl, Option.some.inj origin_eq⟩

end Seo

end PublicSite
