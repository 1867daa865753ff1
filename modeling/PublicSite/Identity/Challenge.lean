import PublicSite.Digest.Base64Url
import PublicSite.Digest.Sha256
import PublicSite.Text.Utf8

/-!
# Challenges

A sign-in is bound to the browser that began it by a verifier, which stays there,
and a challenge, which is sent along: the digest of the verifier in the alphabet
of URLs.
-/

namespace PublicSite.Identity

open PublicSite.Text PublicSite.Digest

/-- How a challenge is made. -/
def challengeMethod : String := "S256"

/-- The challenge of a verifier. -/
def challenge (verifier : String) : String :=
  String.ofList (Base64Url.encode (sha256 (Utf8.encode verifier.toList)))

end PublicSite.Identity
