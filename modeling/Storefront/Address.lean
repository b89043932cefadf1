import Storefront.Identifier
import Storefront.Instant.Basic

/-!
Delivery addresses: those that a user has saved, and the copies that orders keep. A copy never
changes, whatever happens to the saved address.
-/

namespace Storefront

/-- Where a parcel goes. -/
structure Destination where
  fullName : String
  phone : String
  address : String
  city : String
  state : String
  country : String
  zipCode : String
  landmark : Option String
  deriving DecidableEq, Repr

structure Address where
  id : AddressId
  userId : UserId
  destination : Destination
  isDefault : Bool
  createdAt : Instant
  updatedAt : Instant
  deriving DecidableEq, Repr

/-- The copy of an address that one order keeps. -/
structure OrderAddress where
  id : AddressId
  destination : Destination
  createdAt : Instant
  deriving DecidableEq, Repr

end Storefront
