import PublicSite.Link.Href
import PublicSite.Url.Parse
import PublicSite.Url.Form

/-!
# Public addresses

A configured address reaches a rendered page only after it was normalized: a URL
must be secure, or plain on this machine for development; a mail address must
have a dotted domain.  Two web addresses are of one site when the last two labels
of their hosts agree.
-/

namespace PublicSite.Link

open PublicSite.Text

/-! ## Hosts of one site -/

/-- The last two labels of a host name, or its only label. -/
def rootDomain? (host : List Char) : Option (List Char) :=
  let name := asciiLower (dropEndWhile (· == '.') (trim host))
  match (fields (· == '.') name).reverse with
  | [] => none
  | [single] => some single
  | last :: second :: _ => some (second ++ '.' :: last)

/-- A web address under the same root domain as a host. -/
def isSameSite (href host : List Char) : Bool :=
  isHttp href &&
    match rootDomain? host, Url.parseChars (trim href) with
    | some current, .ok url => (url.host.bind fun name => rootDomain? name.print) == some current
    | _, _ => false

/-! ## URLs -/

/-- A URL that may be published: secure, or plain on this machine. -/
def isPublishable (url : Url) : Bool :=
  let scheme := String.ofList url.scheme
  scheme == "https" ||
    (scheme == "http" &&
      (url.host.map fun host => asciiLower host.print == "localhost".toList).getD false)

/-- The parsed form of a configured URL that may be published. -/
def publicUrl? (value : Option String) : Option Url := do
  let text ← nonBlank? (← value)
  match Url.parse text with
  | .ok url => if isPublishable url then some url else none
  | .error _ => none

/-- The text of a configured URL that may be published. -/
def publicUrlText? (value : Option String) : Option String :=
  (publicUrl? value).map Url.text

/-! ## Mail addresses -/

/-- A dot stands inside a text, with something on both sides of it. -/
def hasInnerDot : List Char → Bool
  | _ :: rest => (rest.dropLast).contains '.'
  | [] => false

/-- A trimmed text has the form of a mail address: a local part and a dotted
domain, with one at-sign and no white space. -/
def isEmail (value : List Char) : Bool :=
  !value.any isBlankChar &&
    match splitOnce? (· == '@') value with
    | none => false
    | some (name, domain) => !name.isEmpty && !domain.contains '@' && hasInnerDot domain

/-- A configured mail address, trimmed, if it has the form of one. -/
def email? (value : Option String) : Option String := do
  let text ← nonBlank? (← value)
  if isEmail text.toList then some text else none

/-! ## Messages -/

/-- A link that opens a conversation, with a message already written.  Other
parameters of the link are kept; the link is empty when the base may not be
published. -/
def whatsappHref (base message : Option String) : String :=
  match (publicUrlText? base).map Url.parse with
  | some (.ok url) =>
      match message.bind nonBlank? with
      | none => url.text
      | some message =>
          let kept := url.pairs.filter fun pair => pair.1 != "text".toList
          (url.withPairs (kept ++ [("text".toList, message.toList)])).text
  | _ => ""

end PublicSite.Link
