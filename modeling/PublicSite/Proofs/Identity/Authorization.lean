import PublicSite.Proofs.Identity.Settings
import PublicSite.Proofs.Url.Form

/-!
# What the service is told

The parameters of a sign-in are read by the service exactly as they were given, whatever
characters they hold, and behind the pairs that the address of the service had already.
-/

namespace PublicSite.Identity

open PublicSite.Text PublicSite.Url

namespace SignIn

/-- The parameters as pairs of a query. -/
def parameterPairs (client : SignIn) (challenge state : String) : List Pair :=
  [("response_type".toList, "code".toList),
    ("client_id".toList, client.clientId.toList),
    ("redirect_uri".toList, client.redirectUri.toList),
    ("scope".toList, join [' '] (client.scopes.map String.toList)),
    ("state".toList, state.toList),
    ("code_challenge".toList, challenge.toList),
    ("code_challenge_method".toList, "S256".toList)]

theorem map_parameters (client : SignIn) (challenge state : String) :
    ((client.parameters challenge state).map fun pair => (pair.1.toList, pair.2.toList)) =
      client.parameterPairs challenge state := by
  simp [parameters, parameterPairs, spaced, challengeMethod]

/-- The address that a visitor is sent to holds the seven parameters last, each value
character by character, and before them the pairs of the address that the domain and
the path of the service are read as. -/
theorem authorizeUrl_pairs {client : SignIn} {challenge state : String} {url : Url}
    (asked : client.authorizeUrl challenge state = .ok url) :
    ∃ base, Url.parse (client.domain ++ "/oauth2/authorize") = .ok base ∧
      url.pairs = base.pairs ++ client.parameterPairs challenge state := by
  obtain ⟨base, read, finished⟩ := bind_eq_ok asked
  obtain rfl := Except.ok.inj finished
  refine ⟨base, readUrl_eq_ok_iff.mp read, ?_⟩
  rw [pairs_appendPairs, map_parameters]

/-- A client whose service has a query already. -/
def clientWithQuery : SignIn where
  domain := "https://auth.evolvesprouts.com?a=1"
  clientId := "admin portal"
  redirectUri := "https://admin.evolvesprouts.com/callback?x=1&y=2#z"
  scopes := ["openid", "email"]

/-- The state holds everything that could be taken for something else in a query. -/
theorem authorizeUrl_pairs_clientWithQuery :
    ∃ url, clientWithQuery.authorizeUrl "E9Melhoa" "&= +%2B#é" = .ok url ∧
      url.pairs = ("a".toList, "1/oauth2/authorize".toList) ::
        clientWithQuery.parameterPairs "E9Melhoa" "&= +%2B#é" := by
  have read : (Url.parse (clientWithQuery.domain ++ "/oauth2/authorize")).map pairs =
      .ok [("a".toList, "1/oauth2/authorize".toList)] := by
    decide +kernel
  obtain ⟨base, read, basePairs⟩ := map_eq_ok read
  have asked : ∃ url, clientWithQuery.authorizeUrl "E9Melhoa" "&= +%2B#é" = .ok url := by
    have service : authorizePath = "/oauth2/authorize" := rfl
    rw [authorizeUrl, service, readUrl_eq_ok_iff.mpr read]
    exact ⟨_, rfl⟩
  obtain ⟨url, asked⟩ := asked
  obtain ⟨other, readOther, urlPairs⟩ := authorizeUrl_pairs asked
  rw [read] at readOther
  obtain rfl := Except.ok.inj readOther
  exact ⟨url, asked, by rw [urlPairs, basePairs]; rfl⟩

end SignIn

end PublicSite.Identity
