import PublicSite.Json.Printer
import PublicSite.Locale

/-!
# The script on locales

A script that a page runs before it is shown.  It finds the locale of the page in
the first segment of its address, in the same table of locales as the site, and
declares the language and the direction of the document.
-/

namespace PublicSite.Content

open PublicSite.Json

/-- Where the script is served. -/
def scriptPath : String := "/scripts/locale-document.js"

/-- The directions of all locales, by their codes. -/
def directionTable : Value :=
  (Value.object (Locale.all.map fun locale =>
    (locale.code, .text locale.direction.code))).ordered

/-- The script before the default locale. -/
def scriptOpening : String :=
  "
(function applyLocaleDocumentAttributes() \x7b
  var defaultLocale = "

/-- The script between the default locale and the table of directions. -/
def scriptMiddle : String :=
  ";
  var localeDirections = "

/-- The script after the table of directions. -/
def scriptClosing : String :=
  ";
  var segments = window.location.pathname.split('/').filter(Boolean);
  var candidateLocale = segments[0];
  var locale = Object.prototype.hasOwnProperty.call(localeDirections, candidateLocale)
    ? candidateLocale
    : defaultLocale;
  var direction = localeDirections[locale] || 'ltr';
  var rootElement = document.documentElement;
  rootElement.lang = locale;
  rootElement.setAttribute('dir', direction);
\x7d)();
"

/-- The script for a site with a default locale. -/
def documentScript (default : Locale) : String :=
  scriptOpening ++ (Value.text default.code).compactText ++ scriptMiddle
    ++ directionTable.compactText ++ scriptClosing

end PublicSite.Content
