import PublicSite.Proofs.Identity.Settings
import PublicSite.Proofs.Url.Continuation
import PublicSite.Proofs.Url.Origin

/-!
# The address that a visitor is sent to

The domain of the service is read once on its own, when the site starts, and once with
a path behind it, whenever a visitor signs in.  A domain that passes the first reading
can fail the second, and it can take the path up in its query or fragment.  Which
domains do neither is said by one more reading, of the domain with a slash behind it.
-/

namespace PublicSite.Identity

open PublicSite.Text PublicSite.Url

/-! ## The domain -/

/-- The address of a domain begins like that of a web page. -/
theorem domainUrl?_eq_cons {domain address : String}
    (isAddress : domainUrl? domain = some address) (notEmpty : address.toList ≠ []) :
    ∃ rest, address.toList = 'h' :: rest := by
  obtain ⟨text, _, rfl⟩ := Option.map_eq_some_iff.mp isAddress
  rw [String.toList_ofList] at notEmpty ⊢
  have begins : ∃ others, (if "http".toList.isPrefixOf text.toList then text.toList
      else "https://".toList ++ text.toList) = 'h' :: others := by
    split
    · rename_i web
      obtain ⟨others, whole⟩ := List.isPrefixOf_iff_prefix.mp web
      exact ⟨_, whole.symm⟩
    · exact ⟨_, rfl⟩
  obtain ⟨others, whole⟩ := begins
  rw [whole] at notEmpty ⊢
  rcases List.prefix_cons_iff.mp (dropEndWhile_isPrefix (· == '/') ('h' :: others)) with
    empty | ⟨rest, kept, _⟩
  · exact absurd empty notEmpty
  · exact ⟨rest, kept⟩

/-- An address that begins with this letter is not that of a file. -/
theorem scheme_ne_file {rest : List Char} {base : Url}
    (read : parseChars ('h' :: rest) = .ok base) : base.scheme ≠ "file".toList := by
  obtain ⟨_, split, _⟩ := exists_splitScheme?_of_parseChars read
  obtain ⟨first, word, whole, _, _, scheme_eq⟩ := splitScheme?_eq_some_iff.mp split
  have begins : significant ('h' :: rest) =
      'h' :: (dropEndWhile isControlOrSpace rest).filter fun char => !isTabOrLineEnd char := by
    have kept : isControlOrSpace 'h' = false := by decide
    have trimmed : dropEndWhile isControlOrSpace ('h' :: rest) =
        'h' :: dropEndWhile isControlOrSpace rest := dropEndWhile_append_cons kept [] rest
    rw [significant, List.dropWhile_cons_of_neg (by simp [kept]), trimmed]
    exact List.filter_cons_of_pos (by decide)
  rw [begins] at whole
  rw [scheme_eq, ← (List.cons.inj whole).1]
  exact fun same => absurd (List.cons.inj same).1 (by decide)

namespace SignIn

/-- What start-up makes sure of. -/
theorem exists_parse_domain {config : Config.Identity} {client : SignIn}
    (accepted : ofConfig config = .ok client) :
    ∃ base, Url.parse client.domain = .ok base ∧ base.scheme ≠ "file".toList := by
  have usable := isUsable_of_ofConfig accepted
  obtain ⟨base, parsed⟩ := usable.domainUrl
  obtain ⟨domain, _, isAddress⟩ := Option.bind_eq_some_iff.mp usable.domain
  refine ⟨base, parsed, ?_⟩
  have notEmpty : client.domain.toList ≠ [] := by
    intro empty
    rw [Url.parse, empty] at parsed
    exact nomatch parsed
  obtain ⟨rest, begins⟩ := domainUrl?_eq_cons isAddress notEmpty
  rw [Url.parse, begins] at parsed
  exact scheme_ne_file parsed

/-! ## The path behind it -/

theorem isEnding_authorizePath : IsEnding authorizePath.toList.tail where
  notRooted := by decide
  kept := by decide
  noLineEnd := by decide
  noMark := by decide
  unencoded := by decide
  plain := by decide
  written := by decide

/-- The address behind which a path can be put: the domain and a slash are read as an
address that ends with its path, or that has the whole path already. -/
def HasBase (client : SignIn) : Prop :=
  ∃ base, Url.parse (client.domain ++ "/") = .ok base ∧
    ((base.query, base.fragment) = (none, none) ∧ ['/'] <:+ base.path ∨
      authorizePath.toList <:+ base.path)

/-- The parameters are put behind the path, which stays as it was read. -/
theorem exists_authorizeUrl {client : SignIn} {challenge state : String}
    (holds : List Char → Prop) :
    (∃ url, client.authorizeUrl challenge state = .ok url ∧ holds url.path) ↔
      ∃ base, Url.parse (client.domain ++ authorizePath) = .ok base ∧ holds base.path := by
  unfold authorizeUrl
  constructor
  · rintro ⟨url, asked, held⟩
    obtain ⟨base, read, finished⟩ := bind_eq_ok asked
    obtain rfl := Except.ok.inj finished
    exact ⟨base, readUrl_eq_ok_iff.mp read, held⟩
  · rintro ⟨base, read, held⟩
    rw [readUrl_eq_ok_iff.mpr read]
    exact ⟨_, rfl, held⟩

theorem authorizePath_eq : authorizePath.toList = '/' :: authorizePath.toList.tail := by
  decide

variable {config : Config.Identity} {client : SignIn}

theorem parse_slash (client : SignIn) :
    Url.parse (client.domain ++ "/") = parseChars (client.domain.toList ++ '/' :: []) := by
  rw [Url.parse, String.toList_append]
  rfl

theorem parse_authorizePath (client : SignIn) :
    Url.parse (client.domain ++ authorizePath) =
      parseChars (client.domain.toList ++ '/' :: authorizePath.toList.tail) := by
  rw [Url.parse, String.toList_append, authorizePath_eq]
  rfl

/-- When the path completes the two slashes of an authority, its first word is the host
and only the second is left of it. -/
theorem exists_swallowed {scheme : List Char} (notSpecial : isSpecial scheme = false) :
    (∃ url, readHierarchical scheme [] = .ok url ∧ url.path = []) ∧
      ∃ url, readHierarchical scheme authorizePath.toList.tail = .ok url ∧
        url.path = "/authorize".toList := by
  have noPort : readPort scheme [] = .ok none := rfl
  have named : lacksHost scheme "oauth2".toList false = false := rfl
  have unnamed : lacksHost scheme [] true = false := by
    simp [lacksHost, hostAndPort, splitUser, splitPort, notSpecial]
  have isHost : readHost false "oauth2".toList = .ok (.domain "oauth2".toList) := by decide
  have noHost : readHost false [] = .ok (.domain []) := by decide
  rw [readHierarchical_eq, readHierarchical_eq, notSpecial]
  refine ⟨?_, ?_⟩
  · have accepted : ∃ url, readAuthority scheme [] [] = .ok url :=
      exists_readAuthority unnamed (by rw [notSpecial]; exact noHost) noPort
    obtain ⟨url, read⟩ := accepted
    refine ⟨url, read, ?_⟩
    rw [(isReadFrom_of_readAuthority read).path_eq, notSpecial]
    rfl
  · have accepted : ∃ url,
        readAuthority scheme "oauth2".toList "/authorize".toList = .ok url :=
      exists_readAuthority named (by rw [notSpecial]; exact isHost) noPort
    obtain ⟨url, read⟩ := accepted
    refine ⟨url, read, ?_⟩
    rw [(isReadFrom_of_readAuthority read).path_eq, notSpecial]
    decide

/-- A visitor gets an address whenever one more slash leaves the domain an address. -/
theorem exists_authorizeUrl_iff (accepted : ofConfig config = .ok client)
    (challenge state : String) :
    (∃ url, client.authorizeUrl challenge state = .ok url) ↔
      ∃ base, Url.parse (client.domain ++ "/") = .ok base := by
  have asks : (∃ url, client.authorizeUrl challenge state = .ok url) ↔
      ∃ base, Url.parse (client.domain ++ authorizePath) = .ok base := by
    simpa using exists_authorizeUrl fun _ => True
  rw [asks, parse_slash, parse_authorizePath]
  obtain ⟨_, parsed, notFile⟩ := exists_parse_domain accepted
  obtain ⟨_, _, continuation⟩ := continuation_of_parseChars parsed notFile
  cases continuation with
  | path reads =>
      obtain ⟨_, whole, _⟩ := reads _ isEnding_authorizePath
      obtain ⟨_, bare, _⟩ := reads _ isEnding_nil
      exact iff_of_true ⟨_, whole⟩ ⟨_, bare⟩
  | tail _ path reads =>
      obtain ⟨_, whole, _⟩ := reads _ isEnding_authorizePath
      obtain ⟨_, bare, _⟩ := reads _ isEnding_nil
      exact iff_of_true ⟨_, whole⟩ ⟨_, bare⟩
  | refused _ refuses =>
      exact iff_of_false (fun ⟨url, read⟩ => refuses _ isEnding_authorizePath url read)
        (fun ⟨url, read⟩ => refuses _ isEnding_nil url read)
  | swallowed _ scheme notSpecial reads =>
      obtain ⟨⟨_, bare, _⟩, _, whole, _⟩ := exists_swallowed notSpecial
      rw [reads _ isEnding_authorizePath, reads _ isEnding_nil]
      exact iff_of_true ⟨_, whole⟩ ⟨_, bare⟩

/-- The path is the service's own exactly when the domain is a base. -/
theorem exists_authorizeUrl_suffix_iff (accepted : ofConfig config = .ok client)
    (challenge state : String) :
    (∃ url, client.authorizeUrl challenge state = .ok url ∧
        authorizePath.toList <:+ url.path) ↔ client.HasBase := by
  rw [exists_authorizeUrl (authorizePath.toList <:+ ·), HasBase, parse_slash, parse_authorizePath]
  obtain ⟨_, parsed, notFile⟩ := exists_parse_domain accepted
  obtain ⟨_, _, continuation⟩ := continuation_of_parseChars parsed notFile
  cases continuation with
  | path reads =>
      obtain ⟨url, whole, _, suffix⟩ := reads _ isEnding_authorizePath
      obtain ⟨base, bare, noTail, slash⟩ := reads _ isEnding_nil
      rw [← authorizePath_eq] at suffix
      exact iff_of_true ⟨url, whole, suffix⟩ ⟨base, bare, Or.inl ⟨noTail, slash⟩⟩
  | tail _ path reads =>
      obtain ⟨url, whole, _, samePath⟩ := reads _ isEnding_authorizePath
      obtain ⟨base, bare, hasTail, sameBarePath⟩ := reads _ isEnding_nil
      simp only [whole, bare, Except.ok.injEq, exists_eq_left']
      rw [samePath, sameBarePath]
      exact (or_iff_right fun goesOn => hasTail goesOn.1).symm
  | refused _ refuses =>
      exact iff_of_false (fun ⟨url, read, _⟩ => refuses _ isEnding_authorizePath url read)
        (fun ⟨url, read, _⟩ => refuses _ isEnding_nil url read)
  | swallowed _ scheme notSpecial reads =>
      obtain ⟨⟨base, bare, noPath⟩, url, whole, shortPath⟩ := exists_swallowed notSpecial
      simp only [reads _ isEnding_authorizePath, reads _ isEnding_nil, whole, bare,
        Except.ok.injEq, exists_eq_left']
      rw [noPath, shortPath]
      refine iff_of_false (by decide) ?_
      rintro (⟨_, slash⟩ | whole)
      · exact absurd slash (by decide)
      · exact absurd whole (by decide)

/-- A web address that nothing is lost of and that has no query and no fragment. -/
structure IsPlain (client : SignIn) : Prop where
  noMark : client.domain.toList.any endsPath = false
  kept : dropEndWhile isControlOrSpace client.domain.toList = client.domain.toList
  web : ∀ base, Url.parse client.domain = .ok base → isSpecial base.scheme = true

theorem hasBase_of_isPlain (accepted : ofConfig config = .ok client) (isPlain : client.IsPlain) :
    client.HasBase := by
  rw [HasBase, parse_slash]
  obtain ⟨base, parsed, notFile⟩ := exists_parse_domain accepted
  obtain ⟨lost, nothingLost, continuation⟩ := continuation_of_parseChars parsed notFile
  obtain ⟨host, hasHost, isAuthority⟩ :=
    exists_host_of_parseChars parsed (isPlain.web base parsed) notFile
  cases continuation with
  | path reads =>
      obtain ⟨base, bare, noTail, slash⟩ := reads _ isEnding_nil
      exact ⟨base, bare, Or.inl ⟨noTail, slash⟩⟩
  | tail marked path reads =>
      obtain ⟨char, member, isMark⟩ := marked
      exact absurd isMark (List.any_eq_false.mp isPlain.noMark char member)
  | refused cause refuses =>
      rcases cause with lostSome | noHost
      · exact absurd (nothingLost isPlain.kept) lostSome
      · rw [hasHost] at noHost
        obtain rfl := Option.some.inj noHost
        exact absurd rfl isAuthority.1
  | swallowed noHost scheme notSpecial reads =>
      rw [hasHost] at noHost
      exact nomatch noHost

/-- A client that start-up accepted sends its visitors to the service, with any
challenge and state, exactly when its domain is a base; a plain web address is one.
Whether there is an address at all does not depend on the path. -/
theorem authorizeUrl_asks_service (accepted : ofConfig config = .ok client) :
    (client.IsPlain → client.HasBase) ∧ ∀ challenge state : String,
      ((∃ url, client.authorizeUrl challenge state = .ok url ∧
          authorizePath.toList <:+ url.path) ↔ client.HasBase) ∧
      ((∃ url, client.authorizeUrl challenge state = .ok url) ↔
        ∃ base, Url.parse (client.domain ++ "/") = .ok base) :=
  ⟨hasBase_of_isPlain accepted, fun challenge state =>
    ⟨exists_authorizeUrl_suffix_iff accepted challenge state,
      exists_authorizeUrl_iff accepted challenge state⟩⟩

/-- Signing in at a domain. -/
def configAt (domain : String) : Config.Identity where
  domain := some domain
  clientId := some "admin-portal"
  redirectUri := some "https://admin.evolvesprouts.com/callback"

/-- The client that start-up makes of it when `domain` is what it comes to. -/
def clientAt (domain : String) : SignIn where
  domain
  clientId := "admin-portal"
  redirectUri := "https://admin.evolvesprouts.com/callback"
  scopes := standardScopes

theorem ofConfig_configAt : ofConfig (configAt "auth.evolvesprouts.com/") =
    .ok (clientAt "https://auth.evolvesprouts.com") := by
  decide +kernel

theorem isPlain_clientAt : IsPlain (clientAt "https://auth.evolvesprouts.com") where
  noMark := by decide
  kept := by decide
  web := by
    intro base parsed
    have isWeb : (Url.parse "https://auth.evolvesprouts.com").map
        (fun base => isSpecial base.scheme) = .ok true := by decide +kernel
    rw [clientAt] at parsed
    rw [parsed] at isWeb
    exact Except.ok.inj isWeb

theorem authorizeUrl_asks_service_domain :
    ofConfig (configAt "auth.evolvesprouts.com/") =
        .ok (clientAt "https://auth.evolvesprouts.com") ∧
      ∃ url, (clientAt "https://auth.evolvesprouts.com").authorizeUrl
        "E9Melhoa2OwvFrEMTJguCHaoeK1t8URWbuGJSstw-cM" "xyz" = .ok url ∧
        authorizePath.toList <:+ url.path := by
  obtain ⟨plain, asks⟩ := authorizeUrl_asks_service ofConfig_configAt
  exact ⟨ofConfig_configAt, (asks _ _).1.mpr (plain isPlain_clientAt)⟩

/-- A space before the last slash passes start-up, and no visitor gets an address; a
query passes start-up, and no visitor gets to the service's path. -/
theorem authorizeUrl_misses_service :
    (ofConfig (configAt "auth.evolvesprouts.com /") =
        .ok (clientAt "https://auth.evolvesprouts.com ") ∧
      ∀ challenge state url, (clientAt "https://auth.evolvesprouts.com ").authorizeUrl
        challenge state ≠ .ok url) ∧
    (ofConfig (configAt "auth.evolvesprouts.com?x=1") =
        .ok (clientAt "https://auth.evolvesprouts.com?x=1") ∧
      ∀ challenge state, ∃ url, (clientAt "https://auth.evolvesprouts.com?x=1").authorizeUrl
        challenge state = .ok url ∧ url.path = ['/']) := by
  refine ⟨⟨by decide +kernel, ?_⟩, by decide +kernel, ?_⟩
  · intro challenge state url
    have refused : Url.parse ("https://auth.evolvesprouts.com " ++ authorizePath) =
        .error .invalidInternationalName := by decide +kernel
    unfold authorizeUrl readUrl clientAt
    rw [refused]
    exact fun accepted => nomatch accepted
  · intro challenge state
    have path : (Url.parse ("https://auth.evolvesprouts.com?x=1" ++ authorizePath)).map Url.path =
        .ok ['/'] := by decide +kernel
    obtain ⟨base, read, isRoot⟩ := map_eq_ok path
    exact (exists_authorizeUrl (· = ['/'])).mpr ⟨base, read, isRoot⟩

end SignIn

end PublicSite.Identity
