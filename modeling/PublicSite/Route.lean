import PublicSite.Content.Basic
import PublicSite.Path

/-!
# Routes

The pages of the site, by their paths without a locale.  A finished page is
indexed by search engines; a placeholder is not.  Some former paths redirect to
a page, or to a section of one.
-/

namespace PublicSite

/-- Whether search engines may list a page. -/
inductive Visibility where
  | indexed
  | placeholder
  deriving DecidableEq, Repr

namespace Visibility

/-- The name of a visibility. -/
def code : Visibility → String
  | .indexed => "indexed"
  | .placeholder => "placeholder"

/-- The visibility with a name. -/
def ofCode? : String → Option Visibility
  | "indexed" => some .indexed
  | "placeholder" => some .placeholder
  | _ => none

@[simp]
theorem ofCode?_code (visibility : Visibility) : ofCode? visibility.code = some visibility := by
  cases visibility <;> rfl

end Visibility

/-- A page of the site. -/
inductive Route where
  | home
  | aboutUs
  | contactUs
  | events
  | trainingCourse
  | privacy
  | workshops
  | terms
  deriving DecidableEq, Repr

namespace Route

/-- All pages. -/
def all : List Route :=
  [.home, .aboutUs, .contactUs, .events, .trainingCourse, .privacy, .workshops, .terms]

/-- The finished pages, in the order in which the sitemap lists them. -/
def indexed : List Route :=
  [.home, .aboutUs, .events, .contactUs, .trainingCourse]

/-- The pages that are still to be written. -/
def placeholders : List Route :=
  [.privacy, .workshops, .terms]

/-- The path of a page, without a locale. -/
def path : Route → String
  | .home => "/"
  | .aboutUs => "/about-us"
  | .contactUs => "/contact-us"
  | .events => "/events"
  | .trainingCourse => "/services/my-best-auntie-training-course"
  | .privacy => "/privacy"
  | .workshops => "/services/workshops"
  | .terms => "/terms"

/-- Whether search engines may list a page. -/
def visibility : Route → Visibility
  | .privacy | .workshops | .terms => .placeholder
  | .home | .aboutUs | .contactUs | .events | .trainingCourse => .indexed

/-- The page with a path. -/
def ofPath? (path : String) : Option Route :=
  all.find? fun route => route.path == path

/-- The path of a page under a locale. -/
def localized (route : Route) (locale : Locale) : String :=
  Path.localizeText route.path locale

/-- The texts of a page. -/
def copy (route : Route) (content : Content) : Content.PageCopy :=
  match route with
  | .home => content.pages.home
  | .aboutUs => content.pages.aboutUs
  | .contactUs => content.pages.contactUs
  | .events => content.pages.events
  | .trainingCourse => content.pages.trainingCourse
  | .privacy => content.pages.privacy
  | .workshops => content.pages.workshops
  | .terms => content.pages.terms

theorem mem_all (route : Route) : route ∈ all := by
  cases route <;> decide

/-- A page is indexed exactly when the sitemap lists it. -/
theorem mem_indexed_iff (route : Route) : route ∈ indexed ↔ route.visibility = .indexed := by
  cases route <;> decide

/-- A page is a placeholder exactly when it is listed as one. -/
theorem mem_placeholders_iff (route : Route) :
    route ∈ placeholders ↔ route.visibility = .placeholder := by
  cases route <;> decide

@[simp]
theorem ofPath?_path (route : Route) : ofPath? route.path = some route := by
  cases route <;> decide

end Route

/-- Where a former path leads. -/
structure Redirect where
  route : Route
  anchor : Option String := none
  deriving DecidableEq, Repr

namespace Redirect

/-- The former paths. -/
def aliases : List (String × Redirect) :=
  [("/about", ⟨.aboutUs, none⟩), ("/contact", ⟨.contactUs, none⟩),
    ("/book", ⟨.trainingCourse, none⟩), ("/resources", ⟨.home, some "resources"⟩)]

/-- The section of free resources. -/
def resources : Redirect := ⟨.home, some "resources"⟩

/-- The href of a redirect under a locale. -/
def href (redirect : Redirect) (locale : Locale) : String :=
  match redirect.anchor with
  | none => redirect.route.localized locale
  | some anchor => redirect.route.localized locale ++ "#" ++ anchor

/-- Where a path without a locale leads, if it is a former one. -/
def find? (path : String) : Option Redirect :=
  (aliases.find? fun entry => entry.1 == path).map Prod.snd

end Redirect

end PublicSite
