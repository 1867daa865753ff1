import PublicSite.Booking.Cause
import PublicSite.Booking.Currency
import PublicSite.Booking.Discount
import PublicSite.Json.Record

/-!
# Quotes

What a package costs with a discount code.  The rules of the service are looked
at before the configured ones, and a code that no rule has leaves the price as
it is.
-/

namespace PublicSite.Booking

open PublicSite.Json PublicSite.Json.Record

/-- What a quote is asked for.  `serviceAnswer` is the answer of the service on
discounts, if the visitor has one. -/
structure QuoteRequest (α : Type) where
  basePrice : α
  discountCode : Option String := none
  locale : Option String := none
  serviceAnswer : Option Value := none

/-- A quote; `discount` is the rule that was applied. -/
structure Quote (α : Type) where
  locale : Locale
  basePrice : α
  total : α
  discountAmount : α
  discount : Option (DiscountRule α)
  formattedBasePrice : String
  formattedTotal : String

namespace QuoteRequest

/-- A request as it is read. -/
def record : Record (QuoteRequest Float) :=
  QuoteRequest.mk <$> required "basePrice" Decoder.float
    <*> withDefault "discountCode" (Decoder.optional Decoder.text) none
    <*> withDefault "locale" (Decoder.optional Decoder.text) none
    <*> withDefault "crmDiscounts" (Decoder.optional Decoder.free) none

variable {α : Type} [Price α]

/-- The rules of the service that a request comes with. -/
def rules (request : QuoteRequest α) : List (DiscountRule α) :=
  (request.serviceAnswer.map serviceRules).getD []

/-- The rule that a request asks for, first among those of the service and then
among the configured ones. -/
def discount? (request : QuoteRequest α) (configured : List (DiscountRule α)) :
    Option (DiscountRule α) := do
  let code ← request.discountCode
  (findRule? request.rules code).or (findRule? configured code)

end QuoteRequest

/-- Answer a request for a quote. -/
def quote {α : Type} [Price α] (configured : List (DiscountRule α)) (request : QuoteRequest α)
    (default : Locale) : Except (Failure BookingCause) (Quote α) :=
  if Price.isAmount request.basePrice then
    let discount := request.discount? configured
    let total := DiscountRule.applyOptional discount request.basePrice
    .ok {
      locale := (request.locale.bind Locale.ofCode?).getD default
      basePrice := request.basePrice
      total
      discountAmount := Price.less request.basePrice total
      discount
      formattedBasePrice := formatPrice request.basePrice
      formattedTotal := formatPrice total }
  else failWith (.invalidQuote "basePrice must be a non-negative number")

/-! ## Writing -/

/-- A rule, as a value. -/
def DiscountRule.toValue (rule : DiscountRule Float) : Value :=
  Value.ofPresent [
    ("code", some (.text rule.code)),
    ("type", some (.text rule.kind.code)),
    ("value", some (.float rule.value)),
    ("name", rule.name.map .text),
    ("currencyCode", rule.currencyCode.map .text),
    ("currencySymbol", rule.currencySymbol.map .text)]

/-- A quote, as a value. -/
def Quote.toValue (quote : Quote Float) : Value :=
  Value.ofPresent [
    ("locale", some (.text quote.locale.code)),
    ("basePrice", some (.float quote.basePrice)),
    ("total", some (.float quote.total)),
    ("discountAmount", some (.float quote.discountAmount)),
    ("discount", quote.discount.map DiscountRule.toValue),
    ("formattedBasePrice", some (.text quote.formattedBasePrice)),
    ("formattedTotal", some (.text quote.formattedTotal))]

end PublicSite.Booking
