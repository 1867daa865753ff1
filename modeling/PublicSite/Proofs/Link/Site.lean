import PublicSite.Link.Site
import PublicSite.Proofs.Link.Public

/-!
# The links of the site

Whatever profiles and contact details were configured, what is published of them is safe
to follow, and publishing it again changes nothing.
-/

namespace PublicSite.Link.SiteLinks

open PublicSite.Text

/-- Published links as they would be configured. -/
def toSocial (links : SiteLinks) : Config.Social where
  instagramUrl := links.instagramUrl
  linkedinUrl := links.linkedinUrl
  whatsappUrl := links.whatsappUrl
  contactEmail := links.contactEmail
  businessAddress := links.businessAddress
  businessPhoneNumber := links.businessPhoneNumber

/-- The URLs among the links. -/
def urls (links : SiteLinks) : List (Option String) :=
  [links.instagramUrl, links.linkedinUrl, links.whatsappUrl]

theorem mem_profiles_iff {links : SiteLinks} {text : String} :
    text ∈ links.profiles ↔ some text ∈ links.urls := by
  simp [profiles, urls]

/-- Links that can be followed: every URL may be published, that of a message as well, a
message can be sent exactly when there is somebody to send it to, contact details hold
something, and the link to the mail address is one. -/
structure AreSafe (links : SiteLinks) : Prop where
  urls : ∀ text, some text ∈ links.urls → IsPublished text
  profiles : ∀ text ∈ links.profiles, IsPublished text
  messages : ∀ message, links.whatsapp message ≠ "" → IsPublished (links.whatsapp message)
  silent_iff : ∀ message, links.whatsapp message = "" ↔ links.whatsappUrl = none
  address : ∀ text ∈ links.businessAddress, isBlank text.toList = false ∧ trimmed text = text
  phone : ∀ text ∈ links.businessPhoneNumber, isBlank text.toList = false ∧ trimmed text = text
  mail : ∀ href ∈ links.mailto?, hrefKind href.toList = .mailto

theorem isPublished_of_mem_urls {social : Config.Social} {text : String}
    (member : some text ∈ (ofConfig social).urls) : IsPublished text := by
  simp only [SiteLinks.urls, ofConfig, List.mem_cons, List.not_mem_nil, or_false] at member
  rcases member with isUrl | isUrl | isUrl
  all_goals exact isPublished_of_publicUrlText? isUrl.symm

/-- The link for a message is the URL that was configured with that message, if it may be
published. -/
theorem whatsapp_ofConfig (social : Config.Social) (message : Option String) :
    (ofConfig social).whatsapp message =
      ((publicUrl? social.whatsappUrl).map fun url => (withMessage url message).text).getD "" := by
  rw [whatsapp, whatsappHref_eq, ofConfig, publicUrl?_publicUrlText?]

/-- There is a link for a message, and a safe one, exactly when there is an address. -/
theorem whatsapp_cases (social : Config.Social) (message : Option String) :
    ((ofConfig social).whatsappUrl = none ∧ (ofConfig social).whatsapp message = "") ∨
      ((ofConfig social).whatsappUrl ≠ none ∧ (ofConfig social).whatsapp message ≠ "" ∧
        IsPublished ((ofConfig social).whatsapp message)) := by
  have base : (ofConfig social).whatsappUrl = (publicUrl? social.whatsappUrl).map Url.text := rfl
  rw [whatsapp_ofConfig, base]
  cases isPublic : publicUrl? social.whatsappUrl with
  | none => exact Or.inl ⟨rfl, rfl⟩
  | some url =>
      obtain ⟨isRead, publishable⟩ := isRead_of_publicUrl? isPublic
      obtain ⟨changed, mayBe⟩ := isPublic_withMessage isRead publishable message
      exact Or.inr ⟨Option.some_ne_none _, text_ne_empty changed, isPublished_text changed mayBe⟩

theorem areSafe_ofConfig (social : Config.Social) : (ofConfig social).AreSafe := by
  constructor
  case urls => exact fun text member => isPublished_of_mem_urls member
  case profiles => exact fun text member => isPublished_of_mem_urls (mem_profiles_iff.mp member)
  case messages =>
    intro message given
    rcases whatsapp_cases social message with ⟨_, silent⟩ | ⟨_, _, isPublished⟩
    · exact absurd silent given
    · exact isPublished
  case silent_iff =>
    intro message
    rcases whatsapp_cases social message with ⟨noUrl, silent⟩ | ⟨hasUrl, given, _⟩
    · exact ⟨fun _ => noUrl, fun _ => silent⟩
    · exact ⟨fun silent => absurd silent given, fun noUrl => absurd noUrl hasUrl⟩
  case address =>
    exact fun text isAddress => nonBlank?_eq_some_iff.mp (nonBlank?_of_bind_nonBlank? isAddress)
  case phone =>
    exact fun text isNumber => nonBlank?_eq_some_iff.mp (nonBlank?_of_bind_nonBlank? isNumber)
  case mail =>
    intro href isMail
    obtain ⟨address, _, rfl⟩ := Option.map_eq_some_iff.mp isMail
    rw [String.toList_append]
    exact hrefKind_mailto address.toList

/-- Published links are published again as they are. -/
theorem ofConfig_toSocial (social : Config.Social) :
    ofConfig (ofConfig social).toSocial = ofConfig social := by
  simp [ofConfig, toSocial]

/-- Whatever was configured, the published links are safe to follow, and configuring them
as they are publishes the same links. -/
theorem ofConfig_safe_and_stable (social : Config.Social) :
    (ofConfig social).AreSafe ∧ ofConfig (ofConfig social).toSocial = ofConfig social :=
  ⟨areSafe_ofConfig social, ofConfig_toSocial social⟩

end PublicSite.Link.SiteLinks
