import Storefront.Proofs.Store.Storage

/-!
Orders as they are read. What is answered of an order is the order itself, its items by identifier
and the copy of the address that it goes to, all as they are stored.
-/

namespace Storefront

/-- The details are those of an order in the tables. -/
structure OrderDetails.StoredIn (details : OrderDetails) (t : Tables) : Prop where
  order_found :
    t.orders.find? (fun row => row.id = details.order.id) = some details.order.row
  items_listed : OrderItem.ListedIn details.order.id details.items t.orderItems
  address_eq : details.shippingAddress =
    details.order.shippingAddressId.bind fun id => t.orderAddresses.find? fun copy => copy.id = id

open Session

variable {context : Context} {p p' : Progress} {id : OrderId}

theorem OrderDetails.StoredIn.congr {details : OrderDetails} {t t' : Tables}
    (h : details.StoredIn t) (orders : t'.orders = t.orders)
    (orderItems : t'.orderItems = t.orderItems)
    (orderAddresses : t'.orderAddresses = t.orderAddresses) : details.StoredIn t' := by
  refine ⟨?_, ?_, ?_⟩
  · rw [orders]
    exact h.order_found
  · rw [orderItems]
    exact h.items_listed
  · rw [orderAddresses]
    exact h.address_eq

theorem OrderDetails.returns_find {found : OrderDetails} (calm : p.fault = none) :
    Returns (OrderDetails.find id) context p (some found) p' ↔
      found.order.id = id ∧ found.StoredIn p.tables ∧ p' = p := by
  constructor
  · intro h
    obtain ⟨order?, middle, horder, hrest⟩ := returns_bind.mp h
    obtain ⟨horder, rfl⟩ := (Order.returns_find calm).mp horder
    cases order? with
    | none => simp at hrest
    | some order =>
      obtain ⟨-, rfl⟩ := mem_of_find?_key horder
      obtain ⟨items, last, hitems, hread⟩ := returns_bind.mp hrest
      obtain ⟨hlisted, rfl⟩ := (OrderItem.returns_listFor calm).mp hitems
      cases haddress : order.shippingAddressId with
      | none =>
        rw [haddress] at hread
        obtain ⟨hfound, rfl⟩ := returns_pure.mp hread
        obtain rfl := Option.some.inj hfound
        exact ⟨rfl, ⟨horder, hlisted, by rw [haddress]; rfl⟩, rfl⟩
      | some address =>
        rw [haddress] at hread
        obtain ⟨copy, _, hcopy, hread⟩ := returns_bind.mp hread
        obtain ⟨rfl, rfl⟩ := (Table.returns_selectFirst calm).mp hcopy
        obtain ⟨hfound, rfl⟩ := returns_pure.mp hread
        obtain rfl := Option.some.inj hfound
        exact ⟨rfl, ⟨horder, hlisted, by rw [haddress]; rfl⟩, rfl⟩
  · rintro ⟨rfl, ⟨horder, hlisted, haddress⟩, rfl⟩
    obtain ⟨order, items, copy⟩ := found
    dsimp only at horder hlisted haddress ⊢
    refine returns_bind.mpr ⟨some order, p', (Order.returns_find calm).mpr ⟨horder, rfl⟩, ?_⟩
    refine returns_bind.mpr ⟨items, p', (OrderItem.returns_listFor calm).mpr ⟨hlisted, rfl⟩, ?_⟩
    cases hid : order.shippingAddressId with
    | none =>
      rw [hid] at haddress
      obtain rfl : copy = none := haddress
      exact returns_pure.mpr ⟨rfl, rfl⟩
    | some address =>
      rw [hid] at haddress
      exact returns_bind.mpr ⟨copy, p', (Table.returns_selectFirst calm).mpr ⟨haddress, rfl⟩,
        returns_pure.mpr ⟨rfl, rfl⟩⟩

namespace Order

theorem returns_details {found : OrderDetails} (calm : p.fault = none) :
    Returns (details id) context p found p' ↔
      found.order.id = id ∧ found.StoredIn p.tables ∧ p' = p := by
  rw [← OrderDetails.returns_find calm]
  constructor
  · intro h
    obtain ⟨found?, middle, hfind, h⟩ := returns_bind.mp h
    obtain ⟨rfl, rfl⟩ := returns_found.mp h
    exact hfind
  · intro h
    exact returns_bind.mpr ⟨some found, p', h, returns_found.mpr ⟨rfl, rfl⟩⟩

end Order
end Storefront
