import PublicSite.Failure
import PublicSite.Registry
import PublicSite.Text.Blank
import PublicSite.Content.Reader
import PublicSite.Content.Bundles

/-!
# The catalog of content

A catalog has content in every locale.  It is read from one text for each locale
and accepted when all of them are bundles, when the texts that every page relies
on are not blank, and when each bundle declares the direction in which its locale
is written.  Texts are read before anything is checked, so a bundle that is not
well formed is reported before a blank title in another one.
-/

namespace PublicSite

open PublicSite.Text PublicSite.Json

/-- Why content cannot be served. -/
inductive LocaleCause where
  /-- The code is not that of a locale. -/
  | unsupported (code : String)
  /-- The text is no bundle. -/
  | malformed (fault : Fault)
  /-- A bundle lacks something that pages rely on. -/
  | invalid (message : String)
  /-- The feature is missing from the state of the site. -/
  | state (failure : Failure StateCause)
  deriving DecidableEq, Repr

instance : Cause LocaleCause where
  headline
    | .unsupported _ => "Unsupported locale"
    | .malformed _ => "Content bundle error"
    | .invalid _ => "Content validation error"
    | .state _ => "Locale slice unavailable"
  detail
    | .unsupported code => code
    | .malformed .malformed => "not JSON"
    | .malformed .misshapen => "not a bundle"
    | .invalid message => message
    | .state failure => failure.message

namespace Content

/-- The texts that must not be blank, with their names, in the order in which
they are checked. -/
def requiredTexts (content : Content) : List (String × String) :=
  [("meta.title", content.overview.title), ("meta.description", content.overview.description),
    ("navbar.brand", content.navbar.brand), ("notFound.title", content.notFound.title)]
    ++ content.pages.named.map fun page => (page.1, page.2.title)

/-- The name of the first required text that is blank. -/
def blankText? (content : Content) : Option String :=
  (content.requiredTexts.find? fun entry => isBlank entry.2.toList).map Prod.fst

/-- Check that content has what pages in a locale rely on. -/
def check (locale : Locale) (content : Content) : Except (Failure LocaleCause) Unit :=
  match content.blankText? with
  | some name =>
      inContext ("Locale " ++ locale.code) (failWith (.invalid (name ++ " must not be blank")))
  | none =>
      if content.overview.direction = locale.direction then .ok ()
      else
        failWith (.invalid ("meta.direction is " ++ content.overview.direction.code ++ " but "
          ++ locale.code ++ " is " ++ locale.direction.code))

/-- Read the bundle of a locale. -/
def read (locale : Locale) (text : String) : Except (Failure LocaleCause) Content :=
  match parse text with
  | .ok content => .ok content
  | .error fault =>
      inContext ("Parsing " ++ locale.code ++ " bundle") (failWith (.malformed fault))

end Content

/-- Content in every locale. -/
structure Catalog where
  content : Locale → Content

namespace Catalog

/-- A catalog by its bundles. -/
def ofBundles (en zhCn zhHk : Content) : Catalog where
  content
    | .en => en
    | .zhCn => zhCn
    | .zhHk => zhHk

/-- Check the locales of a catalog in turn. -/
def checkAll (catalog : Catalog) : List Locale → Except (Failure LocaleCause) Unit
  | [] => .ok ()
  | locale :: rest => do
      (catalog.content locale).check locale
      checkAll catalog rest

/-- Check every locale of a catalog. -/
def check (catalog : Catalog) : Except (Failure LocaleCause) Unit :=
  checkAll catalog Locale.all

/-- Read a catalog from the texts of its bundles. -/
def ofTexts (texts : Locale → String) : Except (Failure LocaleCause) Catalog := do
  let en ← Content.read .en (texts .en)
  let zhCn ← Content.read .zhCn (texts .zhCn)
  let zhHk ← Content.read .zhHk (texts .zhHk)
  let catalog := ofBundles en zhCn zhHk
  catalog.check
  return catalog

/-- The catalog that the site is delivered with. -/
def delivered : Catalog :=
  ofBundles Content.english Content.simplifiedChinese Content.traditionalChinese

end Catalog

/-! ## Pages -/

/-- What a page is rendered from: its locale and the content in it. -/
structure Page where
  locale : Locale
  content : Content

namespace Page

/-- The direction in which a page is written. -/
def direction (page : Page) : Direction :=
  page.locale.direction

end Page

namespace Catalog

/-- A page in a locale. -/
def page (catalog : Catalog) (locale : Locale) : Page :=
  ⟨locale, catalog.content locale⟩

/-- A page in the locale with a code. -/
def pageOf (catalog : Catalog) (code : String) : Except (Failure LocaleCause) Page :=
  match Locale.ofCode? code with
  | some locale => .ok (catalog.page locale)
  | none => failWith (.unsupported code)

end Catalog

end PublicSite
