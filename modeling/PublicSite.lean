import PublicSite.Booking.Cause
import PublicSite.Booking.Currency
import PublicSite.Booking.Discount
import PublicSite.Booking.Price
import PublicSite.Booking.Quote
import PublicSite.Booking.Reservation
import PublicSite.Booking.Site
import PublicSite.Calendar
import PublicSite.Config.Basic
import PublicSite.Config.Layers
import PublicSite.Config.Place
import PublicSite.Config.Printer
import PublicSite.Config.Reader
import PublicSite.Content.Basic
import PublicSite.Content.Bundles
import PublicSite.Content.Catalog
import PublicSite.Content.Reader
import PublicSite.Content.Script
import PublicSite.Decimal.Binary64
import PublicSite.Decimal.Reading
import PublicSite.Decimal.Shortest
import PublicSite.Decimal.Tenths
import PublicSite.Digest.Base64Url
import PublicSite.Digest.Sha256
import PublicSite.Failure
import PublicSite.Feature
import PublicSite.Http.Endpoint
import PublicSite.Http.Failure
import PublicSite.Http.MediaType
import PublicSite.Http.Message
import PublicSite.Http.Service
import PublicSite.Identity.Challenge
import PublicSite.Identity.SignIn
import PublicSite.Json.Draft
import PublicSite.Json.Printer
import PublicSite.Json.Reader
import PublicSite.Json.Record
import PublicSite.Json.Value
import PublicSite.Link.Href
import PublicSite.Link.Public
import PublicSite.Link.Site
import PublicSite.Locale
import PublicSite.Logging
import PublicSite.Markup.Escape
import PublicSite.Markup.Tree
import PublicSite.Path
import PublicSite.Registry
import PublicSite.Route
import PublicSite.ScrollLock
import PublicSite.Seo.Document
import PublicSite.Seo.Metadata
import PublicSite.Seo.Schema
import PublicSite.Seo.Site
import PublicSite.Seo.Sitemap
import PublicSite.Server
import PublicSite.Submission
import PublicSite.Text.Ascii
import PublicSite.Text.Blank
import PublicSite.Text.Line
import PublicSite.Text.Normalization
import PublicSite.Text.Normalization.CombiningClass
import PublicSite.Text.Normalization.Decomposition
import PublicSite.Text.Pieces
import PublicSite.Text.Table
import PublicSite.Text.UpperCase
import PublicSite.Text.UpperCase.Table
import PublicSite.Text.Utf8
import PublicSite.Toml.Quoted
import PublicSite.Toml.Reader
import PublicSite.Toml.Scalar
import PublicSite.Toml.Tree
import PublicSite.Url.Address
import PublicSite.Url.Basic
import PublicSite.Url.Domain
import PublicSite.Url.Domain.Mapping
import PublicSite.Url.Domain.Property
import PublicSite.Url.Form
import PublicSite.Url.Host
import PublicSite.Url.Parse
import PublicSite.Url.Percent
import PublicSite.Url.Punycode
import PublicSite.Workers
import PublicSite.Proofs.Booking.Currency
import PublicSite.Proofs.Booking.Ordering
import PublicSite.Proofs.Booking.Reservation
import PublicSite.Proofs.Booking.Selection
import PublicSite.Proofs.Booking.Service
import PublicSite.Proofs.Booking.Total
import PublicSite.Proofs.Config.Layering
import PublicSite.Proofs.Content.Labels
import PublicSite.Proofs.Content.Loading
import PublicSite.Proofs.Content.Serving
import PublicSite.Proofs.Http.Availability
import PublicSite.Proofs.Http.Indexing
import PublicSite.Proofs.Http.Landing
import PublicSite.Proofs.Http.PageLocale
import PublicSite.Proofs.Identity.Authorization
import PublicSite.Proofs.Identity.Domain
import PublicSite.Proofs.Identity.Settings
import PublicSite.Proofs.Identity.SignIn
import PublicSite.Proofs.Json.Members
import PublicSite.Proofs.Json.Reading
import PublicSite.Proofs.Json.Record
import PublicSite.Proofs.Json.Shape
import PublicSite.Proofs.Json.Texts
import PublicSite.Proofs.Link.Href
import PublicSite.Proofs.Link.Message
import PublicSite.Proofs.Link.Public
import PublicSite.Proofs.Link.Site
import PublicSite.Proofs.Markup.Elements
import PublicSite.Proofs.Markup.Escape
import PublicSite.Proofs.Markup.Reader
import PublicSite.Proofs.Markup.Rendering
import PublicSite.Proofs.Markup.Texts
import PublicSite.Proofs.Path.FirstSegment
import PublicSite.Proofs.Path.Href
import PublicSite.Proofs.Path.Idempotence
import PublicSite.Proofs.Path.Normalize
import PublicSite.Proofs.Path.Reduction
import PublicSite.Proofs.Path.Relocalization
import PublicSite.Proofs.Path.Resolution
import PublicSite.Proofs.Path.Sanitize
import PublicSite.Proofs.Path.Shape
import PublicSite.Proofs.Path.Suffix
import PublicSite.Proofs.Registry
import PublicSite.Proofs.ScrollLock
import PublicSite.Proofs.Seo.Alternates
import PublicSite.Proofs.Seo.Compaction
import PublicSite.Proofs.Seo.Guarding
import PublicSite.Proofs.Seo.Headings
import PublicSite.Proofs.Seo.Layout
import PublicSite.Proofs.Seo.Origin
import PublicSite.Proofs.Seo.Page
import PublicSite.Proofs.Seo.Properties
import PublicSite.Proofs.Seo.Script
import PublicSite.Proofs.Seo.Sitemap
import PublicSite.Proofs.Server
import PublicSite.Proofs.Startup
import PublicSite.Proofs.Text.Digits
import PublicSite.Proofs.Text.Line
import PublicSite.Proofs.Text.Utf8
import PublicSite.Proofs.Url.Address
import PublicSite.Proofs.Url.Continuation
import PublicSite.Proofs.Url.Domain
import PublicSite.Proofs.Url.Form
import PublicSite.Proofs.Url.Host
import PublicSite.Proofs.Url.Origin
import PublicSite.Proofs.Url.Parse
import PublicSite.Proofs.Url.Percent
import PublicSite.Proofs.Url.Printing
import PublicSite.Proofs.Url.Punycode
import PublicSite.Proofs.Url.Reading
import PublicSite.Proofs.Link.Mail
import PublicSite.Proofs.Link.SameSite
import PublicSite.Proofs.Seo.Normalization
import PublicSite.Proofs.Decimal.Reading
import PublicSite.Proofs.Booking.Rules
import PublicSite.Proofs.Digest.Base64Url
import PublicSite.Proofs.Digest.Sha256
import PublicSite.Proofs.Identity.Challenge
import PublicSite.Proofs.Text.Words
import PublicSite.Proofs.Config.Keys
import PublicSite.Proofs.Markup.Parts
import PublicSite.Proofs.Seo.Recovery
