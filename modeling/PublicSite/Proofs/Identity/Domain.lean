import PublicSite.Link.Href
import PublicSite.Proofs.Identity.SignIn

/-!
# The scheme of a domain

A domain is put behind the secure scheme unless it has a scheme of the web already.  What
is asked is only whether it begins with four small letters.  So a name that begins with
these letters is left without a scheme, and a scheme in capitals is taken for a name.
Every other domain comes to the address that it should.
-/

namespace PublicSite.Identity

open PublicSite.Text

/-! ## The due address -/

/-- The address that a domain should come to: with a scheme in front, unless it has one in
whatever case, and without slashes at its end. -/
def dueAddress (domain : List Char) : List Char :=
  dropEndWhile (· == '/') (if Link.isHttp domain then domain else "https://".toList ++ domain)

/-- The domain has no scheme but begins with the letters of one. -/
def BeginsLikeScheme (domain : List Char) : Prop :=
  Link.isHttp domain = false ∧ "http".toList <+: domain

/-- The domain has a scheme that does not begin in small letters. -/
def HasCapitalScheme (domain : List Char) : Prop :=
  Link.isHttp domain = true ∧ ¬ "http".toList <+: domain

theorem dropEndWhile_slash_ne_nil {domain : List Char} {char : Char} (member : char ∈ domain)
    (notSlash : char ≠ '/') : dropEndWhile (· == '/') domain ≠ [] :=
  List.ne_nil_of_mem (mem_dropEndWhile_of_mem (beq_eq_false_iff_ne.mpr notSlash) member)

/-- A scheme is not made of slashes alone. -/
theorem dropEndWhile_slash_ne_nil_of_isHttp {domain : List Char}
    (isHttp : Link.isHttp domain = true) : dropEndWhile (· == '/') domain ≠ [] := by
  have opens : ∃ word ∈ ["http://", "https://"], opensWith word (trim domain) = true := by
    simpa [Link.isHttp] using isHttp
  obtain ⟨word, isScheme, opens⟩ := opens
  obtain ⟨head, rest, whole, lower⟩ := opensWith_iff.mp opens
  have hasLetter : ∀ word ∈ ["http://", "https://"], 'h' ∈ word.toList := by decide
  obtain ⟨letter, member, isLetter⟩ := List.mem_map.mp (lower ▸ hasLetter word isScheme)
  have inDomain : letter ∈ domain :=
    mem_of_mem_trim (whole ▸ List.mem_append_left rest member)
  apply dropEndWhile_slash_ne_nil inDomain
  rintro rfl
  exact absurd isLetter (by decide)

theorem dueAddress_of_isHttp {domain : List Char} (isHttp : Link.isHttp domain = true) :
    dueAddress domain = dropEndWhile (· == '/') domain := by
  rw [dueAddress, if_pos isHttp]

/-- The slashes of the scheme stay when something of the domain does. -/
theorem dueAddress_of_not_isHttp {domain : List Char} (noScheme : Link.isHttp domain = false)
    (somethingKept : dropEndWhile (· == '/') domain ≠ []) :
    dueAddress domain = "https://".toList ++ dropEndWhile (· == '/') domain := by
  rw [dueAddress, noScheme, if_neg Bool.false_ne_true, dropEndWhile_append somethingKept]

/-! ## The address that it comes to -/

/-- The address that a trimmed domain comes to. -/
def address (domain : List Char) : List Char :=
  dropEndWhile (· == '/')
    (if "http".toList.isPrefixOf domain then domain else "https://".toList ++ domain)

theorem domainUrl?_eq_none_iff {domain : String} :
    domainUrl? domain = none ↔ isBlank domain.toList = true := by
  rw [domainUrl?, Option.map_eq_none_iff, nonBlank?_eq_none_iff]

theorem toList_of_domainUrl?_eq_some {domain url : String} (isUrl : domainUrl? domain = some url) :
    url.toList = address (trim domain.toList) := by
  obtain ⟨text, present, rfl⟩ := Option.map_eq_some_iff.mp isUrl
  obtain ⟨_, rfl⟩ := nonBlank?_eq_some_iff.mp present
  rw [String.toList_ofList, toList_trimmed, address]

theorem address_of_isPrefix {domain : List Char} (letters : "http".toList <+: domain) :
    address domain = dropEndWhile (· == '/') domain := by
  rw [address, if_pos (List.isPrefixOf_iff_prefix.mpr letters)]

theorem address_of_not_isPrefix {domain : List Char} (noLetters : ¬ "http".toList <+: domain) :
    address domain = dropEndWhile (· == '/') ("https://".toList ++ domain) := by
  rw [address, if_neg fun letters => noLetters (List.isPrefixOf_iff_prefix.mp letters)]

/-- A name that begins like a scheme is left without one. -/
theorem BeginsLikeScheme.dueAddress_eq {domain : List Char} (begins : BeginsLikeScheme domain) :
    dueAddress domain = "https://".toList ++ address domain := by
  obtain ⟨noScheme, letters⟩ := begins
  have somethingKept : dropEndWhile (· == '/') domain ≠ [] :=
    dropEndWhile_slash_ne_nil (letters.subset (by decide : 'h' ∈ _)) (by decide)
  rw [dueAddress_of_not_isHttp noScheme somethingKept, address_of_isPrefix letters]

/-- A scheme in capitals is put behind another one. -/
theorem HasCapitalScheme.address_eq {domain : List Char} (capital : HasCapitalScheme domain) :
    address domain = "https://".toList ++ dueAddress domain := by
  obtain ⟨isHttp, noLetters⟩ := capital
  rw [dueAddress_of_isHttp isHttp, address_of_not_isPrefix noLetters,
    dropEndWhile_append (dropEndWhile_slash_ne_nil_of_isHttp isHttp)]

/-- The small letters and the scheme are the same question of every other domain. -/
theorem address_eq_dueAddress_iff {domain : List Char} :
    address domain = dueAddress domain ↔ ¬ BeginsLikeScheme domain ∧ ¬ HasCapitalScheme domain := by
  have longer (text : List Char) : text ≠ "https://".toList ++ text :=
    fun same => absurd (List.self_eq_append_left.mp same) (by decide)
  constructor
  · intro same
    constructor
    · intro begins
      exact longer _ (same.trans begins.dueAddress_eq)
    · intro capital
      exact longer _ (same.symm.trans capital.address_eq)
  · rintro ⟨notLike, notCapital⟩
    cases isHttp : Link.isHttp domain with
    | false =>
        have noLetters : ¬ "http".toList <+: domain := fun letters => notLike ⟨isHttp, letters⟩
        rw [address_of_not_isPrefix noLetters, dueAddress, isHttp, if_neg Bool.false_ne_true]
    | true =>
        have letters : "http".toList <+: domain := by
          by_contra noLetters
          exact notCapital ⟨isHttp, noLetters⟩
        rw [address_of_isPrefix letters, dueAddress_of_isHttp isHttp]

/-- Only a blank domain comes to no address.  Any other comes to the due one, unless it
begins with the letters of a scheme without having one, when the scheme is missing, or has
a scheme in capitals, when there is one too many. -/
theorem domainUrl?_due (domain : String) :
    let text := trim domain.toList
    (domainUrl? domain = none ↔ isBlank domain.toList = true) ∧
      ∀ url ∈ domainUrl? domain,
        (url.toList = dueAddress text ↔ ¬ BeginsLikeScheme text ∧ ¬ HasCapitalScheme text) ∧
        (BeginsLikeScheme text → dueAddress text = "https://".toList ++ url.toList) ∧
        (HasCapitalScheme text → url.toList = "https://".toList ++ dueAddress text) := by
  intro text
  refine ⟨domainUrl?_eq_none_iff, ?_⟩
  intro url isUrl
  rw [toList_of_domainUrl?_eq_some isUrl]
  exact ⟨address_eq_dueAddress_iff, fun begins => begins.dueAddress_eq,
    fun capital => capital.address_eq⟩

/-- A name that has only three of the letters, with white space around it, one that has
all four of them, and a scheme of which one letter is a capital. -/
theorem domainUrl?_due_each :
    (domainUrl? "\u2003htt.example//\n" = some "https://htt.example" ∧
      "https://htt.example".toList = dueAddress "htt.example//".toList) ∧
    (domainUrl? "http.example/" = some "http.example" ∧
      dueAddress "http.example/".toList = "https://".toList ++ "http.example".toList) ∧
    (domainUrl? "Http://é//" = some "https://Http://é" ∧
      "https://Http://é".toList = "https://".toList ++ dueAddress "Http://é//".toList) := by
  refine ⟨⟨by decide, ?_⟩, ⟨by decide, ?_⟩, ⟨by decide, ?_⟩⟩
  · have trimmed : trim "\u2003htt.example//\n".toList = "htt.example//".toList := by decide
    obtain ⟨due, -, -⟩ :=
      (domainUrl?_due "\u2003htt.example//\n").2 "https://htt.example" (by decide)
    rw [trimmed] at due
    exact due.mpr ⟨fun begins => absurd begins.2 (by decide),
      fun capital => absurd capital.1 (by decide)⟩
  · obtain ⟨-, tooShort, -⟩ := (domainUrl?_due "http.example/").2 "http.example" (by decide)
    exact tooShort ⟨by decide, by decide⟩
  · obtain ⟨-, -, tooLong⟩ := (domainUrl?_due "Http://é//").2 "https://Http://é" (by decide)
    exact tooLong ⟨by decide, by decide⟩

/-- At a name that begins like a scheme the site does not start.  At a scheme in capitals
it starts, and its visitors are sent to a host of the name of the scheme. -/
theorem domainUrl?_not_due :
    (domainUrl? "httpbin.org" = some "httpbin.org" ∧
      dueAddress "httpbin.org".toList = "https://httpbin.org".toList ∧
      SignIn.ofConfig (SignIn.configAt "httpbin.org") =
        inContext "identity.domain" (failWith (.url .relativeWithoutBase))) ∧
    domainUrl? "HTTPS://auth.example.com" = some "https://HTTPS://auth.example.com" ∧
      dueAddress "HTTPS://auth.example.com".toList = "HTTPS://auth.example.com".toList ∧
      (Url.parse "https://HTTPS://auth.example.com").map Url.host =
        .ok (some (.domain "https".toList)) := by
  decide +kernel

end PublicSite.Identity
