import PublicSite.Booking.Price
import PublicSite.Config.Basic
import PublicSite.Decimal.Reading
import PublicSite.Json.Value
import PublicSite.Text.Blank
import PublicSite.Text.UpperCase

/-!
# Discounts

A discount rule takes a percentage or an amount off a price.  Rules come from the
configuration and from the answer of the service that keeps customers' records;
an entry that makes no usable rule is skipped without disturbing the others.  A
rule is found by its code, whose case does not matter.
-/

namespace PublicSite.Booking

open PublicSite.Text PublicSite.Decimal PublicSite.Json

/-- A usable discount rule. -/
structure DiscountRule (α : Type) where
  code : String
  kind : DiscountKind
  value : α
  name : Option String := none
  currencyCode : Option String := none
  currencySymbol : Option String := none
  deriving DecidableEq, Repr

namespace DiscountRule

variable {α : Type} [Price α]

/-- The price after a rule, never below zero.  What a percentage leaves is rounded
to whole units. -/
def apply (rule : DiscountRule α) (price : α) : α :=
  match rule.kind with
  | .percent => Price.atLeastZero (Price.round (Price.lessPercent price rule.value))
  | .amount => Price.atLeastZero (Price.less price rule.value)

/-- The price after a rule, if there is one. -/
def applyOptional (rule : Option (DiscountRule α)) (price : α) : α :=
  match rule with
  | none => price
  | some rule => rule.apply price

end DiscountRule

/-! ## Rules from the configuration -/

/-- The rule that a configured entry makes: one with a code and a finite value. -/
def configuredRule? {α : Type} [Price α] (entry : Config.StaticRule Float) :
    Option (DiscountRule α) := do
  let value ← Price.ofFloat? entry.value
  let code ← nonBlank? entry.code
  return { code, kind := entry.kind, value }

/-- The rules that configured entries make. -/
def configuredRules {α : Type} [Price α] (entries : List (Config.StaticRule Float)) :
    List (DiscountRule α) :=
  entries.filterMap configuredRule?

/-! ## Rules from the service -/

/-- A number, or a text that is read as one. -/
def numberOf? : Value → Option Float
  | .integer value => some (Float.ofInt value)
  | .float value => some value
  | .text value => readDouble? (trim value.toList)
  | _ => none

/-- A truth value. -/
def truthOf? : Value → Option Bool
  | .bool value => some value
  | _ => none

/-- The rule that an entry of the service makes. -/
def serviceRule? {α : Type} [Price α] (entry : Value) : Option (DiscountRule α) := do
  let code ← nonBlank? (← (← entry.member? "code").text?)
  let value ← Price.ofFloat? (← numberOf? (← entry.member? "amount"))
  let isPercentage ← truthOf? (← entry.member? "is_percentage")
  return {
    code
    kind := if isPercentage then .percent else .amount
    value
    name := (entry.member? "name").bind Value.text? |>.bind nonBlank?
    currencyCode := (entry.member? "currency_code").bind Value.text?
    currencySymbol := (entry.member? "currency_symbol").bind Value.text? }

/-- The entries of an answer of the service: an array, or an object with one. -/
def serviceEntries : Value → List Value
  | .array entries => entries
  | payload =>
      match payload.member? "data" with
      | some (.array entries) => entries
      | _ => []

/-- The rules that an answer of the service makes. -/
def serviceRules {α : Type} [Price α] (payload : Value) : List (DiscountRule α) :=
  (serviceEntries payload).filterMap serviceRule?

/-! ## Finding a rule -/

/-- Two codes are the same up to case. -/
def sameCode (left right : String) : Bool :=
  upperCase left.toList == upperCase right.toList

/-- The first rule with a code; the code is trimmed, and no rule has a blank
one. -/
def findRule? {α : Type} (rules : List (DiscountRule α)) (code : String) :
    Option (DiscountRule α) := do
  let wanted ← nonBlank? code
  rules.find? fun rule => sameCode rule.code wanted

/-! ## The service -/

/-- The address of a service below a base, which must be secure; otherwise
nothing. -/
def endpoint (base path : String) : String :=
  let trimmedBase := trim base.toList
  if opensWith "https://" trimmedBase then
    String.ofList (dropEndWhile (· == '/') trimmedBase ++ path.toList)
  else ""

/-- Where discounts are asked for. -/
def discountsUrl (base : String) : String :=
  endpoint base "/v1/discounts"

/-- Where reservations are sent to. -/
def reservationsUrl (base : String) : String :=
  endpoint base "/v1/reservations"

end PublicSite.Booking
