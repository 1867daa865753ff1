import PublicSite.Config.Basic
import PublicSite.Json.Value
import PublicSite.Link.Public

/-!
# Links of the site

The profiles and contact details that were configured, as far as they may be
published.  What is blank or malformed is treated as not configured.
-/

namespace PublicSite.Link

open PublicSite.Text

/-- Profiles and contact details that may be published. -/
structure SiteLinks where
  instagramUrl : Option String := none
  linkedinUrl : Option String := none
  whatsappUrl : Option String := none
  contactEmail : Option String := none
  businessAddress : Option String := none
  businessPhoneNumber : Option String := none
  deriving DecidableEq, Repr

namespace SiteLinks

/-- What may be published of the configured profiles and contact details. -/
def ofConfig (social : Config.Social) : SiteLinks where
  instagramUrl := publicUrlText? social.instagramUrl
  linkedinUrl := publicUrlText? social.linkedinUrl
  whatsappUrl := publicUrlText? social.whatsappUrl
  contactEmail := email? social.contactEmail
  businessAddress := social.businessAddress.bind nonBlank?
  businessPhoneNumber := social.businessPhoneNumber.bind nonBlank?

/-- The profiles, which are other names of the same organization. -/
def profiles (links : SiteLinks) : List String :=
  [links.instagramUrl, links.linkedinUrl, links.whatsappUrl].filterMap id

/-- A link that opens a conversation with a message. -/
def whatsapp (links : SiteLinks) (message : Option String) : String :=
  whatsappHref links.whatsappUrl message

/-- A link that opens a mail. -/
def mailto? (links : SiteLinks) : Option String :=
  links.contactEmail.map fun email => "mailto:" ++ email

/-- The links as a value with a member for each one that is there. -/
def toValue (links : SiteLinks) : Json.Value :=
  .ofPresent [
    ("instagramUrl", links.instagramUrl.map .text),
    ("linkedinUrl", links.linkedinUrl.map .text),
    ("whatsappUrl", links.whatsappUrl.map .text),
    ("contactEmail", links.contactEmail.map .text),
    ("businessAddress", links.businessAddress.map .text),
    ("businessPhoneNumber", links.businessPhoneNumber.map .text)]

end SiteLinks

end PublicSite.Link
