import PublicSite.Proofs.Link.Public
import PublicSite.Proofs.Url.Form

/-!
# Links with a message

A message is written into a link as the last pair of its query, in place of the message
that was there.  The link leads to where it led before, and it keeps every other pair, in
order, as it was read.  So a second message replaces the first one and leaves no trace
of it.
-/

namespace PublicSite.Link

open PublicSite.Text PublicSite.Url

/-- Two addresses that differ in their queries only. -/
structure SamePlace (url other : Url) : Prop where
  scheme : other.scheme = url.scheme
  username : other.username = url.username
  password : other.password = url.password
  host : other.host = url.host
  port : other.port = url.port
  path : other.path = url.path
  fragment : other.fragment = url.fragment

/-- The pairs of a query with one message, which stands last. -/
def pairsWith (text : List Char) (pairs : List Pair) : List Pair :=
  (pairs.filter fun pair => pair.1 != "text".toList) ++ [("text".toList, text)]

/-- What a link for a message has to be: nothing without an address that may be
published, that address as it is published without a message, and otherwise the same
place with the trimmed message in its query. -/
inductive IsMessageLink (base message : Option String) : String → Prop where
  | silent (noAddress : publicUrlText? base = none) : IsMessageLink base message ""
  | bare {address : String} (published : publicUrlText? base = some address)
      (noMessage : ∀ text ∈ message, isBlank text.toList = true) :
      IsMessageLink base message address
  | written {address text link : String} {url result : Url}
      (published : publicUrlText? base = some address) (isMessage : message = some text)
      (notBlank : isBlank text.toList = false) (readAddress : Url.parse address = .ok url)
      (readLink : Url.parse link = .ok result) (samePlace : SamePlace url result)
      (pairs : result.pairs = pairsWith (trim text.toList) url.pairs) :
      IsMessageLink base message link

/-! ## One message -/

theorem withMessage_of_none {message : Option String} (noMessage : message.bind nonBlank? = none)
    (url : Url) : withMessage url message = url := by
  rw [withMessage, noMessage]

theorem withMessage_of_some {message : Option String} {text : String}
    (isMessage : message.bind nonBlank? = some text) (url : Url) :
    withMessage url message = url.withPairs (pairsWith text.toList url.pairs) := by
  rw [withMessage, isMessage]
  rfl

theorem bind_nonBlank?_of_not_blank {text : String} (notBlank : isBlank text.toList = false) :
    (some text).bind nonBlank? = some (trimmed text) :=
  nonBlank?_eq_some_iff.mpr ⟨notBlank, rfl⟩

theorem samePlace_withPairs (url : Url) (replacement : List Pair) :
    SamePlace url (url.withPairs replacement) := by
  constructor <;> rfl

/-- A link is what its address and its message make it. -/
theorem isMessageLink_whatsappHref (base message : Option String) :
    IsMessageLink base message (whatsappHref base message) := by
  rw [whatsappHref_eq]
  cases isPublic : publicUrl? base with
  | none =>
      apply IsMessageLink.silent
      rw [publicUrlText?, isPublic]
      rfl
  | some url =>
      have published : publicUrlText? base = some url.text := by
        rw [publicUrlText?, isPublic]
        rfl
      obtain ⟨isRead, publishable⟩ := isRead_of_publicUrl? isPublic
      rw [Option.map_some, Option.getD_some]
      cases kept : message.bind nonBlank? with
      | none =>
          rw [withMessage_of_none kept]
          exact .bare published (bind_nonBlank?_eq_none_iff.mp kept)
      | some text =>
          obtain ⟨written, isMessage, isKept⟩ := Option.bind_eq_some_iff.mp kept
          obtain ⟨notBlank, rfl⟩ := nonBlank?_eq_some_iff.mp isKept
          have readLink := parse_text (isPublic_withMessage isRead publishable message).1
          rw [withMessage_of_some kept] at readLink ⊢
          apply IsMessageLink.written published isMessage notBlank (parse_text isRead) readLink
          · exact samePlace_withPairs url _
          · rw [pairs_withPairs, toList_trimmed]

/-! ## One message after another -/

/-- Of a message that was written before, nothing is kept. -/
theorem pairsWith_pairsWith (first second : List Char) (pairs : List Pair) :
    pairsWith second (pairsWith first pairs) = pairsWith second pairs := by
  rw [pairsWith, pairsWith, List.filter_append, List.filter_filter]
  simp [pairsWith]

theorem withMessage_withMessage (url : Url) (first : Option String) {second : String}
    (notBlank : isBlank second.toList = false) :
    withMessage (withMessage url first) (some second) = withMessage url (some second) := by
  have kept := bind_nonBlank?_of_not_blank notBlank
  rw [withMessage_of_some kept, withMessage_of_some kept]
  cases earlier : first.bind nonBlank? with
  | none => rw [withMessage_of_none earlier]
  | some text =>
      rw [withMessage_of_some earlier, pairs_withPairs, pairsWith_pairsWith]
      rfl

theorem publicUrl?_empty : publicUrl? (some "") = none :=
  rfl

/-- A message that is written into a link with another one replaces it. -/
theorem whatsappHref_whatsappHref (base first : Option String) {second : String}
    (notBlank : isBlank second.toList = false) :
    whatsappHref (some (whatsappHref base first)) (some second) =
      whatsappHref base (some second) := by
  rw [whatsappHref_eq base first, whatsappHref_eq base (some second)]
  cases isPublic : publicUrl? base with
  | none => rw [Option.map_none, Option.getD_none, whatsappHref_eq, publicUrl?_empty]
  | some url =>
      obtain ⟨isRead, publishable⟩ := isRead_of_publicUrl? isPublic
      obtain ⟨changed, mayBe⟩ := isPublic_withMessage isRead publishable first
      rw [Option.map_some, Option.getD_some, whatsappHref_eq, publicUrl?_text changed mayBe,
        Option.map_some, withMessage_withMessage url first notBlank]
      rfl

/-- A link is nothing without an address that may be published, that address without a
message, and otherwise that address with the trimmed message as the last pair of its
query, in place of every other message, and with all else as it was.  So a second message
gives the link that it would have given at first. -/
theorem whatsappHref_sets_text (base : Option String) :
    (∀ message, IsMessageLink base message (whatsappHref base message)) ∧
      ∀ first second, isBlank second.toList = false →
        whatsappHref (some (whatsappHref base first)) (some second) =
          whatsappHref base (some second) :=
  ⟨isMessageLink_whatsappHref base, fun first _ => whatsappHref_whatsappHref base first⟩

/-- The address holds two messages already, a byte that is no text, an empty pair and a
fragment. -/
theorem whatsappHref_sets_text_twice :
    let base := some "https://u:p@wa.me:8443/a%20b?text=1&x=%FF&&y=a+b&=&text#top"
    let second := " é & = + % "
    isBlank second.toList = false ∧
      whatsappHref (some (whatsappHref base (some "old"))) (some second) =
        "https://u:p@wa.me:8443/a%20b?x=%EF%BF%BD&y=a+b&=&text=%C3%A9+%26+%3D+%2B+%25#top" := by
  intro base second
  have notBlank : isBlank second.toList = false := by decide
  refine ⟨notBlank, ?_⟩
  rw [(whatsappHref_sets_text base).2 (some "old") second notBlank]
  decide +kernel

end PublicSite.Link
