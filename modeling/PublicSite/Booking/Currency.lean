import PublicSite.Booking.Price
import PublicSite.Text.Ascii

/-!
# Amounts of money as text

An amount is written in whole dollars: a minus sign if it is negative, the sign
of the currency, and the digits in groups of three with commas between them.
-/

namespace PublicSite.Booking

open PublicSite.Text

/-- Digits, given from the last one on, in groups of three with commas between
them. -/
def groupReversed : List Char → List Char
  | a :: b :: c :: d :: rest => a :: b :: c :: ',' :: groupReversed (d :: rest)
  | digits => digits

/-- Digits in groups of three with commas between them. -/
def groupThousands (digits : List Char) : List Char :=
  (groupReversed digits.reverse).reverse

/-- The sign of the currency. -/
def currencySign : List Char := "HK$".toList

/-- A count of whole dollars as text. -/
def printDollars (dollars : Int) : List Char :=
  (if dollars < 0 then ['-'] else []) ++ currencySign
    ++ groupThousands (decimalDigits dollars.natAbs)

/-- A price as text, rounded to whole dollars. -/
def formatPrice {α : Type} [Price α] (price : α) : String :=
  String.ofList (printDollars (Price.nearest price))

end PublicSite.Booking
