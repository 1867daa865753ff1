import PublicSite.Text.Ascii
import PublicSite.Text.Blank

/-!
# Kinds of hrefs

An href as content writes it is told apart by how it begins, after trimming and
without regard to the case of ASCII letters.  What is neither a known protocol
nor an anchor nor a path on this site is unsafe, and so is a text that begins
with two slashes, because it names another host.
-/

namespace PublicSite.Link

open PublicSite.Text

/-- What an href leads to. -/
inductive HrefKind where
  | http
  | mailto
  | tel
  | hash
  | internal
  | unsafeHref
  deriving DecidableEq, Repr

/-- An address of the web protocols. -/
def isHttp (href : List Char) : Bool :=
  let value := trim href
  opensWith "http://" value || opensWith "https://" value

/-- An address that leaves the site: of the web protocols, a mail address or a
telephone number. -/
def isExternal (href : List Char) : Bool :=
  let value := trim href
  isHttp value || opensWith "mailto:" value || opensWith "tel:" value

/-- What an href leads to. -/
def hrefKind (href : List Char) : HrefKind :=
  let value := trim href
  if value.isEmpty then .unsafeHref
  else if isHttp value then .http
  else if opensWith "mailto:" value then .mailto
  else if opensWith "tel:" value then .tel
  else if value.head? == some '#' then .hash
  else if value.head? == some '/' && !"//".toList.isPrefixOf value then .internal
  else .unsafeHref

/-- An href that no page should follow. -/
def isUnsafe (href : List Char) : Bool :=
  hrefKind href == .unsafeHref

end PublicSite.Link
