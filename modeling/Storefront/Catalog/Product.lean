import Storefront.Decimal.Basic
import Storefront.Identifier
import Storefront.Instant.Basic

/-!
Products on sale. A product has stock, prices for named tiers instead of a single one, and at most
one offer: a percentage taken off while a window of time is open.
-/

namespace Storefront

structure Product where
  id : ProductId
  name : String
  stock : Int
  isActive : Bool
  discountPercent : Option BasisPoints
  offerStart : Option Instant
  offerEnd : Option Instant
  createdAt : Instant
  updatedAt : Instant
  deriving DecidableEq, Repr

/-- A product's price for one tier. -/
structure Price where
  id : Int
  productId : ProductId
  priceType : String
  amount : Cents
  deriving DecidableEq, Repr

/-- A price that a tier offers. -/
structure Tier where
  id : Int
  priceType : String
  price : Decimal
  deriving DecidableEq, Repr

/-- A percentage off between two instants; a missing bound leaves its side open. -/
structure Offer where
  percent : Option Decimal
  opens : Option Instant
  closes : Option Instant
  deriving DecidableEq, Repr

def Product.offer (p : Product) : Offer :=
  ⟨p.discountPercent.map Decimal.ofHundredths, p.offerStart, p.offerEnd⟩

def Price.tier (p : Price) : Tier :=
  ⟨p.id, p.priceType, Decimal.ofHundredths p.amount⟩

end Storefront
