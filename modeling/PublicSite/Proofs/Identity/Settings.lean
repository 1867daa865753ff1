import PublicSite.Identity.SignIn
import PublicSite.Proofs.Failure
import PublicSite.Proofs.Text.Trimming

/-!
# What start-up makes of the settings

Settings that are not there are all named at once, in the order of their declaration.
When none is missing, the address of the service and the address to return to must be
URLs, and the client that is left holds only texts without white space around them.
Scopes are the exception: blank ones are dropped only after it was asked whether any
are configured, so a client can be left that asks for none.
-/

namespace PublicSite.Identity

open PublicSite.Text

/-! ## Missing settings -/

/-- A setting that is absent or blank. -/
def IsUnset (setting : Option String) : Prop :=
  ∀ text, setting = some text → isBlank text.toList = true

/-- The names of the required settings that are unset, in the order of their
declaration. -/
structure AreMissing (config : Config.Identity) (names : List String) : Prop where
  inOrder : names.Sublist ["identity.domain", "identity.client_id", "identity.redirect_uri"]
  domain : "identity.domain" ∈ names ↔ IsUnset config.domain
  clientId : "identity.client_id" ∈ names ↔ IsUnset config.clientId
  redirectUri : "identity.redirect_uri" ∈ names ↔ IsUnset config.redirectUri

theorem isNone_bind_nonBlank?_iff {setting : Option String} :
    (setting.bind nonBlank?).isNone = true ↔ IsUnset setting := by
  rw [Option.isNone_iff_eq_none]
  exact bind_nonBlank?_eq_none_iff

theorem exists_of_not_isUnset {setting : Option String} (isSet : ¬ IsUnset setting) :
    ∃ text, setting = some text ∧ isBlank text.toList = false := by
  simpa [IsUnset] using isSet

theorem areMissing_missingSettings (config : Config.Identity) :
    AreMissing config (missingSettings config) where
  inOrder := List.filter_sublist.map Prod.fst
  domain := by simp [missingSettings, requiredSettings, ← isNone_bind_nonBlank?_iff]
  clientId := by simp [missingSettings, requiredSettings, ← isNone_bind_nonBlank?_iff]
  redirectUri := by simp [missingSettings, requiredSettings, ← isNone_bind_nonBlank?_iff]

/-! ## Scopes -/

/-- A text that is not blank and has no white space around it. -/
def IsTidy (text : String) : Prop :=
  isBlank text.toList = false ∧ trimmed text = text

instance : DecidablePred IsTidy := fun text =>
  inferInstanceAs (Decidable (isBlank text.toList = false ∧ trimmed text = text))

theorem isTidy_trimmed {text : String} (notBlank : isBlank text.toList = false) :
    IsTidy (trimmed text) := by
  simp [IsTidy, notBlank]

theorem isTidy_of_mem_usedScopes {scopes : List String} {scope : String}
    (member : scope ∈ usedScopes scopes) : IsTidy scope := by
  unfold usedScopes at member
  split at member
  · have standard : ∀ scope ∈ standardScopes, IsTidy scope := by
      simp only [standardScopes, List.forall_mem_cons]
      refine ⟨?_, ?_, ?_, List.forall_mem_nil _⟩ <;> decide
    exact standard scope member
  · obtain ⟨text, _, kept⟩ := List.mem_filterMap.mp member
    obtain ⟨notBlank, rfl⟩ := nonBlank?_eq_some_iff.mp kept
    exact isTidy_trimmed notBlank

/-- No scopes are left exactly when all that are configured are blank. -/
theorem usedScopes_eq_nil_iff {scopes : List String} :
    usedScopes scopes = [] ↔
      scopes ≠ [] ∧ ∀ scope ∈ scopes, isBlank scope.toList = true := by
  cases scopes with
  | nil => simp [usedScopes, standardScopes]
  | cons first rest =>
      simp [usedScopes, List.filterMap_eq_nil_iff, nonBlank?_eq_none_iff]

/-! ## Addresses -/

theorem noSlash_of_domainUrl? {domain address : String}
    (isAddress : domainUrl? domain = some address) : ¬ ['/'] <:+ address.toList := by
  obtain ⟨text, _, rfl⟩ := Option.map_eq_some_iff.mp isAddress
  rw [String.toList_ofList]
  exact not_suffix_dropEndWhile (by decide) _

theorem exists_domainUrl? {domain : String} (notBlank : isBlank domain.toList = false) :
    ∃ address, domainUrl? domain = some address := by
  rw [domainUrl?, nonBlank?_eq_some_iff.mpr ⟨notBlank, rfl⟩]
  exact ⟨_, rfl⟩

theorem readUrl_eq_ok_iff {context text : String} {url : Url} :
    readUrl context text = .ok url ↔ Url.parse text = .ok url := by
  unfold readUrl
  cases Url.parse text with
  | error source => exact iff_of_false (fun read => nomatch read) (fun read => nomatch read)
  | ok read => simp

theorem readUrl_eq_error {context text : String} {source : Url.ParseError}
    (refused : Url.parse text = .error source) :
    readUrl context text = .error ⟨.url source, some context⟩ := by
  rw [readUrl, refused]
  rfl

/-! ## The client -/

/-- A client that its configuration gives and that holds what can be used. -/
structure SignIn.IsUsable (config : Config.Identity) (client : SignIn) : Prop where
  clientId : IsTidy client.clientId ∧ config.clientId.map trimmed = some client.clientId
  redirectUri :
    IsTidy client.redirectUri ∧ config.redirectUri.map trimmed = some client.redirectUri
  redirectUrl : ∃ url, Url.parse client.redirectUri = .ok url
  domain : config.domain.bind domainUrl? = some client.domain
  domainUrl : ∃ url, Url.parse client.domain = .ok url
  noSlash : ¬ ['/'] <:+ client.domain.toList
  scopes : ∀ scope ∈ client.scopes, IsTidy scope
  scopes_eq_nil_iff : client.scopes = [] ↔
    config.scopes ≠ [] ∧ ∀ scope ∈ config.scopes, isBlank scope.toList = true

namespace SignIn

variable {config : Config.Identity}

/-- The client that the settings describe, whether or not it can be used. -/
def configured (config : Config.Identity) : SignIn where
  domain := (config.domain.bind domainUrl?).getD ""
  clientId := trimmed (config.clientId.getD "")
  redirectUri := trimmed (config.redirectUri.getD "")
  scopes := usedScopes config.scopes

theorem isUsable_configured (complete : AreMissing config [])
    (domainUrl : ∃ url, Url.parse (configured config).domain = .ok url)
    (redirectUrl : ∃ url, Url.parse (configured config).redirectUri = .ok url) :
    (configured config).IsUsable config := by
  obtain ⟨domain, hasDomain, domainNotBlank⟩ :=
    exists_of_not_isUnset fun unset => List.not_mem_nil (complete.domain.mpr unset)
  obtain ⟨clientId, hasClientId, clientIdNotBlank⟩ :=
    exists_of_not_isUnset fun unset => List.not_mem_nil (complete.clientId.mpr unset)
  obtain ⟨redirectUri, hasRedirectUri, redirectUriNotBlank⟩ :=
    exists_of_not_isUnset fun unset => List.not_mem_nil (complete.redirectUri.mpr unset)
  obtain ⟨address, isAddress⟩ := exists_domainUrl? domainNotBlank
  refine
    { clientId := ?_, redirectUri := ?_, redirectUrl, domain := ?_, domainUrl, noSlash := ?_
      scopes := fun _ member => isTidy_of_mem_usedScopes member
      scopes_eq_nil_iff := usedScopes_eq_nil_iff }
  · simpa [configured, hasClientId] using isTidy_trimmed clientIdNotBlank
  · simpa [configured, hasRedirectUri] using isTidy_trimmed redirectUriNotBlank
  · simp [configured, hasDomain, isAddress]
  · simpa [configured, hasDomain, isAddress] using noSlash_of_domainUrl? isAddress

/-! ## Start-up -/

/-- Settings that are missing are reported before any address is read. -/
theorem ofConfig_of_missing (missing : missingSettings config ≠ []) :
    ofConfig config = .error
      ⟨.config (spaced ((missingSettings config).map (· ++ " is missing."))), none⟩ := by
  have said : complaints config ≠ [] := by simpa [complaints] using missing
  unfold ofConfig
  split
  · contradiction
  · rfl

/-- With all settings there, both addresses are read before the client is left. -/
theorem ofConfig_of_complete (complete : missingSettings config = []) :
    ofConfig config = do
      let _ ← readUrl "identity.domain" (configured config).domain
      let _ ← readUrl "identity.redirect_uri" (configured config).redirectUri
      return configured config := by
  have said : complaints config = [] := by simp [complaints, complete]
  unfold ofConfig
  rw [said]
  rfl

/-- A client that start-up leaves can be used. -/
theorem isUsable_of_ofConfig {client : SignIn} (accepted : ofConfig config = .ok client) :
    client.IsUsable config := by
  have missing := areMissing_missingSettings config
  by_cases complete : missingSettings config = []
  · rw [complete] at missing
    rw [ofConfig_of_complete complete] at accepted
    obtain ⟨domainUrl, readDomain, next⟩ := bind_eq_ok accepted
    obtain ⟨redirectUrl, readRedirect, finished⟩ := bind_eq_ok next
    obtain rfl := Except.ok.inj finished
    exact isUsable_configured missing ⟨domainUrl, readUrl_eq_ok_iff.mp readDomain⟩
      ⟨redirectUrl, readUrl_eq_ok_iff.mp readRedirect⟩
  · rw [ofConfig_of_missing complete] at accepted
    exact nomatch accepted

/-- The settings that must be addresses, with what is read of them. -/
def addresses (config : Config.Identity) : List (String × String) :=
  [("identity.domain", (configured config).domain),
    ("identity.redirect_uri", (configured config).redirectUri)]

/-- The first setting that is no address, and why. -/
def IsFirstRefused (config : Config.Identity) (setting : String) (source : Url.ParseError) :
    Prop :=
  ∃ before text after, addresses config = before ++ (setting, text) :: after ∧
    (∀ entry ∈ before, ∃ url, Url.parse entry.2 = .ok url) ∧ Url.parse text = .error source

/-- Start-up names every missing setting, or the first one that is no address, or it
leaves a client that can be used.  Such a client asks for no scopes exactly when some
are configured and all of them are blank. -/
theorem ofConfig_outcome (config : Config.Identity) :
    (∃ names, names ≠ [] ∧ AreMissing config names ∧
      ofConfig config = .error ⟨.config (spaced (names.map (· ++ " is missing."))), none⟩) ∨
    (AreMissing config [] ∧ ∃ setting source, IsFirstRefused config setting source ∧
      ofConfig config = .error ⟨.url source, some setting⟩) ∨
    (AreMissing config [] ∧ ∃ client, client.IsUsable config ∧ ofConfig config = .ok client) := by
  have missing := areMissing_missingSettings config
  by_cases complete : missingSettings config = []
  · rw [complete] at missing
    rw [ofConfig_of_complete complete]
    refine Or.inr ?_
    cases domain : Url.parse (configured config).domain with
    | error source =>
        rw [readUrl_eq_error domain]
        exact Or.inl ⟨missing, _, source, ⟨[], _, _, rfl, List.forall_mem_nil _, domain⟩, rfl⟩
    | ok domainUrl =>
        rw [readUrl_eq_ok_iff.mpr domain]
        cases redirect : Url.parse (configured config).redirectUri with
        | error source =>
            rw [readUrl_eq_error redirect]
            have domainRead : ∀ entry ∈ [("identity.domain", (configured config).domain)],
                ∃ url, Url.parse entry.2 = .ok url := by
              simpa using ⟨domainUrl, domain⟩
            exact Or.inl ⟨missing, _, source, ⟨_, _, [], rfl, domainRead, redirect⟩, rfl⟩
        | ok redirectUrl =>
            rw [readUrl_eq_ok_iff.mpr redirect]
            have isUsable := isUsable_configured missing ⟨_, domain⟩ ⟨_, redirect⟩
            exact Or.inr ⟨missing, configured config, isUsable, rfl⟩
  · exact Or.inl ⟨missingSettings config, complete, missing, ofConfig_of_missing complete⟩

/-- Blank scopes only: a client is left that asks for none. -/
theorem ofConfig_blank_scopes :
    ∃ client, ofConfig
        { domain := some "auth.evolvesprouts.com"
          clientId := some "admin-portal"
          redirectUri := some "https://admin.evolvesprouts.com/callback"
          scopes := ["  "] } = .ok client ∧ client.scopes = [] := by
  refine ⟨⟨"https://auth.evolvesprouts.com", "admin-portal",
    "https://admin.evolvesprouts.com/callback", []⟩, ?_, rfl⟩
  decide +kernel

end SignIn

end PublicSite.Identity
