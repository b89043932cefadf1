import Storefront.Catalog.Product
import Storefront.Decimal.Rounding
import Storefront.Error

/-!
Prices at an instant. The tier asked for sets the unit price, and the first tier stands in for one
that is missing. An offer in effect takes its percentage off, rounded to hundredths with a tie
going to the even one; without an offer the unit price is left as it is.
-/

namespace Storefront

/-- The tier that orders are priced by. -/
def defaultPriceType : String := "H"

/-- The tier of the given name, or else the first. -/
def tierFor (tiers : List Tier) (priceType : String) : Option Tier :=
  (tiers.find? fun tier => tier.priceType = priceType) <|> tiers.head?

namespace Offer

/-- Whether the window is open; it includes its bounds. -/
def isOpen (offer : Offer) (now : Instant) : Bool :=
  offer.opens.all (fun start => start ≤ now) && offer.closes.all (fun finish => now ≤ finish)

/-- The percentage in effect. One that is not between 0 and 100 never is. -/
def activePercent (offer : Offer) (now : Instant) : Option Decimal :=
  offer.percent.filter fun percent =>
    decide (Decimal.ofInt 0 < percent) && decide (percent < Decimal.ofInt 100) && offer.isOpen now

def finalPrice (offer : Offer) (unitPrice : Decimal) (now : Instant) : Decimal :=
  match offer.activePercent now with
  | some percent => (unitPrice * (Decimal.ofInt 100 - percent)).hundredth.round .toEven 2
  | none => unitPrice

end Offer

/-- What one unit costs at an instant. -/
structure Quote where
  priceType : String
  unitPrice : Decimal
  finalPrice : Decimal
  discount : Decimal
  deriving DecidableEq, Repr

def quote (product : ProductId) (offer : Offer) (tiers : List Tier) (priceType : String)
    (now : Instant) : Except Error Quote :=
  match tierFor tiers priceType with
  | none => .error (.priceNotFound product)
  | some tier =>
    let finalPrice := offer.finalPrice tier.price now
    .ok ⟨tier.priceType, tier.price, finalPrice, tier.price - finalPrice⟩

example : (Offer.mk (some ⟨10, 0⟩) none none).finalPrice ⟨5, 2⟩ ⟨0, 0⟩ = ⟨4, 2⟩ := by decide +kernel

end Storefront
