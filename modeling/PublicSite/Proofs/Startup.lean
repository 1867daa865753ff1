import PublicSite.Proofs.Http.Availability
import PublicSite.Proofs.Server

/-!
# Which configurations the server starts with

Of the four features two can refuse their settings: the search profile wants an origin
of the web protocols, and sign-in wants two addresses once all that it needs is set.
They are started in this order, so a bad origin hides everything else that is wrong.
A server that starts has all its features.
-/

namespace PublicSite

open PublicSite.Text

/-! ## Sign-in -/

namespace Identity

/-- Settings with which sign-in starts: one that it needs is unset, so that nobody can
sign in, or the service and the place to return to are both addresses. -/
def IsAcceptable (config : Config.Identity) : Prop :=
  (IsUnset config.domain ∨ IsUnset config.clientId ∨ IsUnset config.redirectUri) ∨
    ∃ domain redirectUri, config.domain.bind domainUrl? = some domain ∧
      config.redirectUri.map trimmed = some redirectUri ∧
      (∃ url, Url.parse domain = .ok url) ∧ ∃ url, Url.parse redirectUri = .ok url

theorem missingSettings_ne_nil_iff {config : Config.Identity} :
    missingSettings config ≠ [] ↔
      IsUnset config.domain ∨ IsUnset config.clientId ∨ IsUnset config.redirectUri := by
  simp only [missingSettings, requiredSettings, ne_eq, List.map_eq_nil_iff,
    List.filter_eq_nil_iff, List.forall_mem_cons, isNone_bind_nonBlank?_iff]
  simp only [List.not_mem_nil, false_implies, implies_true, and_true, not_and_or, not_not]

/-- With all settings there, the client is left when both addresses are read. -/
theorem exists_client_iff {config : Config.Identity} (complete : missingSettings config = []) :
    (∃ client, SignIn.ofConfig config = .ok client) ↔
      (∃ url, Url.parse (SignIn.configured config).domain = .ok url) ∧
        ∃ url, Url.parse (SignIn.configured config).redirectUri = .ok url := by
  rw [SignIn.ofConfig_of_complete complete]
  constructor
  · rintro ⟨client, accepted⟩
    obtain ⟨domainUrl, readDomain, next⟩ := bind_eq_ok accepted
    obtain ⟨redirectUrl, readRedirect, -⟩ := bind_eq_ok next
    exact ⟨⟨domainUrl, readUrl_eq_ok_iff.mp readDomain⟩,
      ⟨redirectUrl, readUrl_eq_ok_iff.mp readRedirect⟩⟩
  · rintro ⟨⟨domainUrl, parsedDomain⟩, ⟨redirectUrl, parsedRedirect⟩⟩
    refine ⟨SignIn.configured config, ?_⟩
    rw [readUrl_eq_ok_iff.mpr parsedDomain, readUrl_eq_ok_iff.mpr parsedRedirect]
    rfl

theorem exists_ofConfig_iff (config : Config) :
    (∃ identity, ofConfig config = .ok identity) ↔ IsAcceptable config.identity := by
  by_cases complete : missingSettings config.identity = []
  · have allSet := mt missingSettings_ne_nil_iff.mpr (not_not.mpr complete)
    have isSet := not_or.mp allSet
    obtain ⟨domain, hasDomain, notBlank⟩ := exists_of_not_isUnset isSet.1
    obtain ⟨redirectUri, hasRedirectUri, -⟩ := exists_of_not_isUnset (not_or.mp isSet.2).2
    obtain ⟨address, isAddress⟩ := exists_domainUrl? notBlank
    have starts : (∃ identity, ofConfig config = .ok identity) ↔
        ∃ client, SignIn.ofConfig config.identity = .ok client := by
      rw [ofConfig, complete]
      cases SignIn.ofConfig config.identity <;> simp [Except.map]
    rw [starts, exists_client_iff complete, IsAcceptable, or_iff_right allSet]
    simp [SignIn.configured, hasDomain, hasRedirectUri, isAddress]
  · have starts : ofConfig config = .ok ⟨none⟩ := by
      rw [ofConfig, if_neg (by simpa using complete)]
    exact iff_of_true ⟨_, starts⟩ (Or.inl (missingSettings_ne_nil_iff.mp complete))

end Identity

/-! ## All features -/

/-- The search profile starts with every origin that can be reduced. -/
theorem Seo.ofConfig_eq (config : Config) :
    ofConfig config = (normalizeOrigin config.site.origin).map fun found =>
      { origin := found.1, host := (nonBlank? config.site.host).getD found.2
        defaultLocale := config.site.defaultLocale
        links := Link.SiteLinks.ofConfig config.social } := by
  unfold ofConfig
  cases normalizeOrigin config.site.origin <;> rfl

theorem Seo.exists_ofConfig_iff {config : Config} :
    (∃ seo, ofConfig config = .ok seo) ↔
      ∃ found, normalizeOrigin config.site.origin = .ok found := by
  rw [ofConfig_eq]
  cases normalizeOrigin config.site.origin <;> simp [Except.map]

theorem SiteState.get?_of_require {Key Config : Type} {State : Key → Type} [DecidableEq Key]
    {site : SiteState Config State} {name : Key → String} {key : Key} {state : State key}
    (found : site.require name key = .ok state) : site.get? key = some state := by
  unfold require at found
  split at found
  · rename_i isThere
    rw [isThere, Except.ok.inj found]
  · exact nomatch found

namespace Server

variable {fileExists : String → Bool} {config : Config}

/-- Without a certificate only the features decide, the search profile first. -/
theorem build_cases (fileExists : String → Bool) (noSsl : config.server.ssl = none) :
    (∃ failed, Seo.ofConfig config = .error failed ∧
      build fileExists config = .error (.feature (.seo failed))) ∨
    (∃ seo failed, Seo.ofConfig config = .ok seo ∧ Identity.ofConfig config = .error failed ∧
      build fileExists config = .error (.feature (.identity failed))) ∨
    ∃ seo identity site, Seo.ofConfig config = .ok seo ∧
      Identity.ofConfig config = .ok identity ∧ build fileExists config = .ok site := by
  unfold build
  rw [noSsl]
  simp only [Feature.startAll, Feature.all, Feature.startEach, Feature.start]
  cases Seo.ofConfig config with
  | error failed => exact Or.inl ⟨failed, rfl, rfl⟩
  | ok seo =>
      refine Or.inr ?_
      cases Identity.ofConfig config with
      | error failed => exact Or.inl ⟨seo, failed, rfl, rfl, rfl⟩
      | ok identity => exact Or.inr ⟨seo, identity, _, rfl, rfl, rfl⟩

/-- What start-up makes of a configuration without a certificate.  The server starts
exactly when the origin can be reduced and the settings of sign-in are acceptable; a
bad origin is reported whatever else is wrong.  A server that starts finds every
feature, so no request is told that the service is unavailable. -/
theorem build_outcome (fileExists : String → Bool) (noSsl : config.server.ssl = none) :
    ((∃ site, build fileExists config = .ok site) ↔
      (∃ found, Seo.normalizeOrigin config.site.origin = .ok found) ∧
        Identity.IsAcceptable config.identity) ∧
    (∀ failed, Seo.normalizeOrigin config.site.origin = .error failed →
      build fileExists config = .error (.feature (.seo failed))) ∧
    (∀ found failed, Seo.normalizeOrigin config.site.origin = .ok found →
      Identity.ofConfig config = .error failed →
      build fileExists config = .error (.feature (.identity failed))) ∧
    ∀ site, build fileExists config = .ok site →
      (∀ key, ∃ state, site.get? key = some state) ∧
      ∀ occasion request, Http.IsAvailable (Http.fullReply site occasion request) := by
  refine ⟨?_, ?_, ?_, ?_⟩
  · rw [← Identity.exists_ofConfig_iff, ← Seo.exists_ofConfig_iff]
    rcases build_cases fileExists noSsl with ⟨failed, noSeo, stops⟩ |
      ⟨seo, failed, -, noIdentity, stops⟩ | ⟨seo, identity, site, isSeo, isIdentity, starts⟩
    · simp [noSeo, stops]
    · simp [noIdentity, stops]
    · simp [isSeo, isIdentity, starts]
  · intro failed refused
    have noSeo : Seo.ofConfig config = .error failed := by
      rw [Seo.ofConfig_eq, refused]
      rfl
    rcases build_cases fileExists noSsl with ⟨other, same, stops⟩ |
      ⟨seo, other, isSeo, -⟩ | ⟨seo, identity, site, isSeo, -⟩
    · rw [stops, Except.error.inj (same.symm.trans noSeo)]
    · exact nomatch isSeo.symm.trans noSeo
    · exact nomatch isSeo.symm.trans noSeo
  · intro found failed reduced noIdentity
    obtain ⟨seo, isSeo⟩ := Seo.exists_ofConfig_iff.mpr ⟨found, reduced⟩
    rcases build_cases fileExists noSsl with ⟨other, noSeo, -⟩ |
      ⟨_, other, -, same, stops⟩ | ⟨_, identity, site, -, isIdentity, -⟩
    · exact nomatch isSeo.symm.trans noSeo
    · rw [stops, Except.error.inj (same.symm.trans noIdentity)]
    · exact nomatch isIdentity.symm.trans noIdentity
  · intro site built
    have features key : ∃ state, Http.feature site key = .ok state :=
      (feature_of_build built key).imp fun _ => And.right
    refine ⟨fun key => ?_, Http.isAvailable_fullReply features⟩
    obtain ⟨state, found⟩ := features key
    exact ⟨state, SiteState.get?_of_require found⟩

/-- The settings of a client that returns to a place. -/
def identityAt (redirectUri : String) : Config.Identity where
  domain := some " auth.evolvesprouts.com/ "
  clientId := some "admin-portal"
  redirectUri := some redirectUri

/-- With all settings of sign-in the server starts when it can return to an address, and
not when it cannot; of a bad origin beside it only the origin is told. -/
theorem build_outcome_signIn :
    let usable : Config := { identity := identityAt "https://admin.evolvesprouts.com/callback" }
    let nowhere : Config := { identity := identityAt "callback" }
    let bad : Config := { nowhere with site := { origin := "ftp://evolvesprouts.com" } }
    (∃ site, build (fun _ => false) usable = .ok site) ∧
      (¬ ∃ site, build (fun _ => false) nowhere = .ok site) ∧
      build (fun _ => false) bad = .error (.feature (.seo
        ⟨.unsupportedOrigin "expected http or https, got 'ftp'", some "site.origin"⟩)) := by
  intro usable nowhere bad
  have startsUsable := build_outcome (fun _ => false) (show usable.server.ssl = none from rfl)
  have startsNowhere := build_outcome (fun _ => false) (show nowhere.server.ssl = none from rfl)
  have startsBad := build_outcome (fun _ => false) (show bad.server.ssl = none from rfl)
  refine ⟨startsUsable.1.mpr ⟨exists_eq_ok_of_isOk (by decide +kernel), Or.inr ?_⟩,
    fun starts => ?_, startsBad.2.1 _ (by decide +kernel)⟩
  · exact ⟨"https://auth.evolvesprouts.com", "https://admin.evolvesprouts.com/callback",
      by decide +kernel, by decide +kernel, exists_eq_ok_of_isOk (by decide +kernel),
      exists_eq_ok_of_isOk (by decide +kernel)⟩
  · have refused : Identity.ofConfig nowhere =
        .error ⟨.url .relativeWithoutBase, some "identity.redirect_uri"⟩ := by decide +kernel
    obtain ⟨found, reduced⟩ := (startsNowhere.1.mp starts).1
    obtain ⟨site, built⟩ := starts
    exact nomatch built.symm.trans (startsNowhere.2.2.1 found _ reduced refused)

end Server

end PublicSite
