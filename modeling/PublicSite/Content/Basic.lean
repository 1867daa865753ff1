import PublicSite.Locale

/-!
# Content

The texts of the site in one language: what the navigation, the footer and every
page show.  Hrefs are as content writes them, without a locale.
-/

namespace PublicSite

namespace Content

/-- The site as a whole, and the direction in which its texts run. -/
structure Overview where
  title : String
  description : String
  direction : Direction
  deriving DecidableEq, Repr

/-- A link with its label. -/
structure LinkItem where
  label : String
  href : String
  deriving DecidableEq, Repr

/-- Links under a title. -/
structure LinkGroup where
  title : String
  items : List LinkItem
  deriving DecidableEq, Repr

/-- The navigation. -/
structure Navbar where
  brand : String
  menuItems : List LinkItem
  bookNow : LinkItem
  deriving DecidableEq, Repr

/-- The footer. -/
structure Footer where
  quickLinks : LinkGroup
  services : LinkGroup
  aboutUs : LinkGroup
  connectOn : LinkGroup
  copyright : String
  deriving DecidableEq, Repr

/-- The groups of links in the order in which they are shown. -/
def Footer.groups (footer : Footer) : List LinkGroup :=
  [footer.quickLinks, footer.services, footer.aboutUs, footer.connectOn]

/-- The title and the description of a page. -/
structure PageCopy where
  title : String
  description : String
  deriving DecidableEq, Repr

/-- The texts of the pages. -/
structure Pages where
  home : PageCopy
  aboutUs : PageCopy
  contactUs : PageCopy
  events : PageCopy
  trainingCourse : PageCopy
  privacy : PageCopy
  workshops : PageCopy
  terms : PageCopy
  deriving DecidableEq, Repr

/-- All pages with their names, in the order of their declaration. -/
def Pages.named (pages : Pages) : List (String × PageCopy) :=
  [("home", pages.home), ("aboutUs", pages.aboutUs), ("contactUs", pages.contactUs),
    ("events", pages.events), ("trainingCourse", pages.trainingCourse),
    ("privacy", pages.privacy), ("workshops", pages.workshops), ("terms", pages.terms)]

/-- Texts for search engines. -/
structure Search where
  organizationDescription : String
  keywords : List String
  deriving DecidableEq, Repr

/-- What a reader without scripts is told. -/
structure Noscript where
  message : String
  deriving DecidableEq, Repr

/-- The page that is shown in place of one that does not exist. -/
structure NotFound where
  title : String
  description : String
  backHomeLabel : String
  deriving DecidableEq, Repr

end Content

/-- The texts of the site in one language. -/
structure Content where
  overview : Content.Overview
  navbar : Content.Navbar
  footer : Content.Footer
  pages : Content.Pages
  search : Content.Search
  noscript : Content.Noscript
  notFound : Content.NotFound
  deriving DecidableEq, Repr

namespace Content

/-- The label that the navigation has for an href, or another text. -/
def menuLabel (content : Content) (href fallback : String) : String :=
  match content.navbar.menuItems.find? fun item => item.href == href with
  | some item => item.label
  | none => fallback

/-- The first label that is not empty and that the footer has for an href, or
another text. -/
def footerLabel (content : Content) (href fallback : String) : String :=
  match (content.footer.groups.flatMap LinkGroup.items).find? fun item =>
      item.href == href && !item.label.isEmpty with
  | some item => item.label
  | none => fallback

end Content

end PublicSite
