import PublicSite.Content.Basic
import PublicSite.Json.Printer
import PublicSite.Link.Site
import PublicSite.Seo.Metadata

/-!
# Structured data

What a page tells search engines in the vocabulary of schema.org.  Whatever is
null, blank or empty is dropped, so a setting that is not made leaves no trace.
Members are in the order of their names.
-/

namespace PublicSite.Seo

open PublicSite.Text PublicSite.Json PublicSite.Link

/-! ## Dropping what is empty -/

mutual

/-- A value without nulls, blank texts, and arrays and objects that are empty
once these are dropped. -/
def compact : Value → Option Value
  | .null => none
  | .text value => if isBlank value.toList then none else some (.text value)
  | .array items =>
      match compactItems items with
      | [] => none
      | kept => some (.array kept)
  | .object members =>
      match compactMembers members with
      | [] => none
      | kept => some (.object kept)
  | value => some value

/-- The items that something is left of. -/
def compactItems : List Value → List Value
  | [] => []
  | item :: rest =>
      match compact item with
      | none => compactItems rest
      | some kept => kept :: compactItems rest

/-- The members that something is left of. -/
def compactMembers : List (String × Value) → List (String × Value)
  | [] => []
  | (name, value) :: rest =>
      match compact value with
      | none => compactMembers rest
      | some kept => (name, kept) :: compactMembers rest

end

/-- An object of members, without what is empty. -/
def schema (members : List (String × Value)) : Value :=
  (compact (.object members)).getD (.object [])

/-! ## In a script -/

/-- Put a backslash into every sequence that could end a script. -/
def guardClosing : List Char → List Char
  | '<' :: '/' :: rest => '<' :: '\\' :: '/' :: guardClosing rest
  | char :: rest => char :: guardClosing rest
  | [] => []

/-- A value as the body of a script. -/
def scriptBody (value : Value) : List Char :=
  guardClosing value.print

/-! ## Schemas -/

/-- What schemas are built from. -/
structure SchemaContext where
  origin : String
  locale : Locale
  content : Content
  links : SiteLinks

namespace SchemaContext

/-- The vocabulary. -/
def vocabulary : Value := .text "https://schema.org"

/-- Where the logo lies. -/
def logoPath : String := "/images/evolvesprouts-logo.svg"

/-- The name by which schemas refer to the organization. -/
def organizationId (context : SchemaContext) : String :=
  context.origin ++ "#organization"

/-- The address of a page. -/
def url (context : SchemaContext) (route : Route) : String :=
  absolute context.origin (route.localized context.locale)

/-- The address of the logo. -/
def logo (context : SchemaContext) : String :=
  absolute context.origin logoPath

/-- The profiles of the organization. -/
def profiles (context : SchemaContext) : Value :=
  .array (context.links.profiles.map .text)

/-- A reference to the organization. -/
def organizationReference (context : SchemaContext) : Value :=
  .object [("@id", .text context.organizationId)]

/-- What there is to tell about the organization. -/
def organizationMembers (context : SchemaContext) : List (String × Value) :=
  [("@context", vocabulary),
    ("@id", .text context.organizationId),
    ("@type", .text "Organization"),
    ("description", .text context.content.search.organizationDescription),
    ("logo", .text context.logo),
    ("name", .text context.content.navbar.brand),
    ("sameAs", context.profiles),
    ("url", .text (context.url .home))]

/-- The organization behind the site. -/
def organization (context : SchemaContext) : Value :=
  schema context.organizationMembers

/-- An address in town. -/
def postalAddress (street : String) : Value :=
  .object [
    ("@type", .text "PostalAddress"),
    ("addressCountry", .text "HK"),
    ("addressLocality", .text "Hong Kong"),
    ("streetAddress", .text street)]

/-- The address of the business. -/
def address (context : SchemaContext) : Value :=
  match context.links.businessAddress with
  | none => .null
  | some street => postalAddress street

/-- What there is to tell about the business. -/
def localBusinessMembers (context : SchemaContext) : List (String × Value) :=
  [("@context", vocabulary),
    ("@id", .text (context.origin ++ "#local-business")),
    ("@type", .text "LocalBusiness"),
    ("address", context.address),
    ("description", .text context.content.search.organizationDescription),
    ("image", .text context.logo),
    ("name", .text context.content.navbar.brand),
    ("parentOrganization", context.organizationReference),
    ("sameAs", context.profiles),
    ("telephone", Value.textOrNull context.links.businessPhoneNumber),
    ("url", .text (context.url .home))]

/-- The business, as it is found in town. -/
def localBusiness (context : SchemaContext) : Value :=
  schema context.localBusinessMembers

/-- What there is to tell about the training course. -/
def courseMembers (context : SchemaContext) : List (String × Value) :=
  let copy := Route.trainingCourse.copy context.content
  [("@context", vocabulary),
    ("@id", .text (context.url .trainingCourse ++ "#course")),
    ("@type", .text "Course"),
    ("description", .text copy.description),
    ("name", .text copy.title),
    ("provider", context.organizationReference),
    ("url", .text (context.url .trainingCourse))]

/-- The training course. -/
def course (context : SchemaContext) : Value :=
  schema context.courseMembers

/-- One step on the way to a page. -/
def breadcrumb (context : SchemaContext) (name : String) (route : Route) (position : Nat) :
    Value :=
  .object [
    ("@type", .text "ListItem"),
    ("item", .text (context.url route)),
    ("name", .text name),
    ("position", .integer position)]

/-- The way to a page: names and pages, counted from one. -/
def breadcrumbs (context : SchemaContext) (steps : List (String × Route)) : Value :=
  schema [
    ("@context", vocabulary),
    ("@type", .text "BreadcrumbList"),
    ("itemListElement", .array (steps.zipIdx.map fun step =>
      context.breadcrumb step.1.1 step.1.2 (step.2 + 1)))]

end SchemaContext

end PublicSite.Seo
