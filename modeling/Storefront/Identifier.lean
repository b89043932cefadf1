/-!
Identifiers of rows and of the people they belong to, and amounts as the store's columns hold them.
-/

namespace Storefront

abbrev UserId := Int
abbrev ProductId := Int
abbrev AddressId := Int
abbrev CartId := Int
abbrev OrderId := Int
abbrev ItemId := Int

/-- An amount of money in hundredths. -/
abbrev Cents := Int

/-- A share in hundredths of a percent. -/
abbrev BasisPoints := Int

end Storefront
