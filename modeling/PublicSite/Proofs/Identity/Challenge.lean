import PublicSite.Identity.Challenge
import PublicSite.Proofs.Digest.Base64Url
import PublicSite.Proofs.Digest.Sha256
import PublicSite.Proofs.Text.Utf8

/-!
# What a challenge tells

Whatever the verifier, its challenge has forty-three characters of the alphabet of
URLs.  It is read as the digest of the verifier, and no other text is read as that.
-/

namespace PublicSite.Identity

open PublicSite.Text PublicSite.Digest

/-- The digest of the bytes of a verifier. -/
def digestOf (verifier : String) : List UInt8 :=
  sha256 verifier.toUTF8.data.toList

@[simp]
theorem length_digestOf (verifier : String) : (digestOf verifier).length = 32 :=
  length_sha256 _

theorem toList_challenge (verifier : String) :
    (challenge verifier).toList = Base64Url.encode (digestOf verifier) := by
  rw [challenge, String.toList_ofList, Utf8.encode_toList, digestOf]

theorem length_challenge (verifier : String) : (challenge verifier).length = 43 := by
  rw [← String.length_toList, toList_challenge, Base64Url.length_encode, length_digestOf]

theorem decode?_eq_digestOf_iff {chars : List Char} {verifier : String} :
    Base64Url.decode? chars = some (digestOf verifier) ↔ chars = (challenge verifier).toList := by
  rw [Base64Url.decode?_eq_some_iff, toList_challenge]

/-- Verifiers that have one challenge have one digest. -/
theorem challenge_eq_iff {verifier other : String} :
    challenge verifier = challenge other ↔ digestOf verifier = digestOf other := by
  rw [← String.toList_inj, ← decode?_eq_digestOf_iff, toList_challenge, Base64Url.decode?_encode,
    Option.some.injEq]

/-- A challenge is well formed and loses nothing of the digest that it carries. -/
theorem challenge_carries_digest (verifier : String) :
    (challenge verifier).length = 43 ∧
    (challenge verifier).toList.all Base64Url.isDigit = true ∧
    (∀ chars, Base64Url.decode? chars = some (digestOf verifier) ↔
      chars = (challenge verifier).toList) ∧
    (∀ digest, IsDigest verifier.toUTF8.data.toList digest ↔ digest = digestOf verifier) ∧
    (digestOf verifier).length = 32 ∧
    ∀ other, challenge verifier = challenge other ↔ digestOf verifier = digestOf other := by
  refine ⟨length_challenge verifier, ?_, fun _ => decode?_eq_digestOf_iff, fun _ => isDigest_iff,
    length_digestOf verifier, fun _ => challenge_eq_iff⟩
  rw [List.all_eq_true, toList_challenge]
  exact Base64Url.isDigit_of_mem_encode (digestOf verifier)

example : challenge "dBjftJeZ4CVP-mB92K27uhbUJU1p1r_wW1gFWFOEjXk" =
    "E9Melhoa2OwvFrEMTJguCHaoeK1t8URWbuGJSstw-cM" := by
  decide +kernel

end PublicSite.Identity
