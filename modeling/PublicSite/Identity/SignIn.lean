import PublicSite.Config.Basic
import PublicSite.Identity.Challenge
import PublicSite.Registry
import PublicSite.Text.Blank
import PublicSite.Text.Pieces
import PublicSite.Url.Form
import PublicSite.Url.Parse

/-!
# Signing in

Visitors sign in at a service elsewhere, to which they are sent with a URL that
says who asks and where to return to.  Signing in is possible when the domain of
the service, the name of this client and the address to return to are all
configured; the domain and the address must be URLs.
-/

namespace PublicSite

open PublicSite.Text

/-- Why nobody can sign in. -/
inductive IdentityCause where
  /-- Something is not configured. -/
  | config (message : String)
  /-- Something that is configured is not a URL. -/
  | url (source : Url.ParseError)
  /-- The feature is missing from the state of the site. -/
  | state (failure : Failure StateCause)
  deriving DecidableEq, Repr

instance : Cause IdentityCause where
  headline
    | .config _ => "Identity config error"
    | .url _ => "Identity URL error"
    | .state _ => "Identity slice unavailable"
  detail
    | .config message => message
    | .url source => source.message
    | .state failure => failure.message

namespace Identity

/-- The settings that signing in cannot go without, with their names. -/
def requiredSettings (config : Config.Identity) : List (String × Option String) :=
  [("identity.domain", config.domain), ("identity.client_id", config.clientId),
    ("identity.redirect_uri", config.redirectUri)]

/-- The names of the settings that are absent or blank. -/
def missingSettings (config : Config.Identity) : List String :=
  ((requiredSettings config).filter fun setting =>
    (setting.2.bind nonBlank?).isNone).map Prod.fst

/-- What is said about each missing setting. -/
def complaints (config : Config.Identity) : List String :=
  (missingSettings config).map fun name => name ++ " is missing."

/-- The address of a domain: with a scheme, unless it seems to have one, and
without slashes at its end. -/
def domainUrl? (domain : String) : Option String :=
  (nonBlank? domain).map fun text =>
    let chars := text.toList
    let withScheme :=
      if "http".toList.isPrefixOf chars then chars else "https://".toList ++ chars
    String.ofList (dropEndWhile (· == '/') withScheme)

/-- What is asked for when no scopes are configured. -/
def standardScopes : List String := ["openid", "email", "profile"]

/-- The scopes that are asked for. -/
def usedScopes (scopes : List String) : List String :=
  if scopes.isEmpty then standardScopes else scopes.filterMap nonBlank?

/-- A client of the service. -/
structure SignIn where
  domain : String
  clientId : String
  redirectUri : String
  scopes : List String
  deriving DecidableEq, Repr

/-- Read a URL. -/
def readUrl (context text : String) : Except (Failure IdentityCause) Url :=
  match Url.parse text with
  | .ok url => .ok url
  | .error source => inContext context (failWith (.url source))

/-- Texts on one line with a space between them. -/
def spaced (texts : List String) : String :=
  String.ofList (join [' '] (texts.map String.toList))

namespace SignIn

/-- The client that is configured. -/
def ofConfig (config : Config.Identity) : Except (Failure IdentityCause) SignIn :=
  match complaints config with
  | [] => do
      let domain := (config.domain.bind domainUrl?).getD ""
      let redirectUri := trimmed (config.redirectUri.getD "")
      let _ ← readUrl "identity.domain" domain
      let _ ← readUrl "identity.redirect_uri" redirectUri
      return {
        domain
        clientId := trimmed (config.clientId.getD "")
        redirectUri
        scopes := usedScopes config.scopes }
  | missing => failWith (.config (spaced missing))

/-- The path at which the service is asked. -/
def authorizePath : String := "/oauth2/authorize"

/-- The parameters with which the service is asked. -/
def parameters (client : SignIn) (challenge state : String) : List (String × String) :=
  [("response_type", "code"), ("client_id", client.clientId),
    ("redirect_uri", client.redirectUri), ("scope", spaced client.scopes), ("state", state),
    ("code_challenge", challenge), ("code_challenge_method", challengeMethod)]

/-- The URL that a visitor is sent to, with a challenge and a text that comes
back. -/
def authorizeUrl (client : SignIn) (challenge state : String) :
    Except (Failure IdentityCause) Url := do
  let url ← readUrl "authorize URL" (client.domain ++ authorizePath)
  return url.appendPairs ((client.parameters challenge state).map fun pair =>
    (pair.1.toList, pair.2.toList))

end SignIn

end Identity

/-- Signing in as it is configured; without a client nobody can. -/
structure Identity where
  client : Option Identity.SignIn
  deriving DecidableEq, Repr

namespace Identity

/-- Signing in as it is configured.  Without all settings there is no client; with
all of them the client must be usable. -/
def ofConfig (config : Config) : Except (Failure IdentityCause) Identity :=
  if (missingSettings config.identity).isEmpty then
    (SignIn.ofConfig config.identity).map fun client => ⟨some client⟩
  else .ok ⟨none⟩

end Identity

end PublicSite
