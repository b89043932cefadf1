import Storefront.Proofs.Session.Scope
import Storefront.Service.Operation

/-!
The scope of each operation of the service and of the statements that it is made of. Only
cancellations put anything back into stock, nothing inside a transaction is announced, and what
reads an order, an item, a payment, a product or a cart only reads.
-/

namespace Storefront

open Session

variable {scope : Scope} {α : Type}

namespace Table

variable (table : Table α)

instance (q : α → Bool) : Within scope (table.select q) := by
  unfold select
  infer_instance

instance (q : α → Bool) : Within scope (table.selectFirst q) := by
  unfold selectFirst
  infer_instance

section Writing

variable [scope.Covers .writing]

instance (admitted : Tables → Bool) (rows : List α) (take : Sequences → Sequences) :
    Within scope (table.insert admitted rows take) := by
  unfold insert
  infer_instance

instance (q : α → Bool) (f : α → α) (admitted : Tables → α → Bool) :
    Within scope (table.update q f admitted) := by
  unfold update
  infer_instance

instance (q : α → Bool) : Within scope (table.delete q) := by
  unfold delete
  infer_instance

end Writing
end Table

namespace Product

instance (id : ProductId) : Within scope (find id) := by
  unfold find
  infer_instance

instance (id : ProductId) : Within scope (prices id) := by
  unfold prices
  infer_instance

instance (product : Product) [scope.Covers .writing] : Within scope (save product) := by
  unfold save
  infer_instance

instance (id : ProductId) (quantity : Int) [scope.Covers .writing] [scope.Covers .restocking] :
    Within scope (restock id quantity) := by
  unfold restock
  infer_instance

instance (id : ProductId) (stock : Option Int) (isActive : Option Bool) [scope.Covers .writing] :
    Within scope (revise id stock isActive) := by
  unfold revise
  infer_instance

end Product

namespace Cart

instance (id : CartId) : Within scope (lines id) := by
  unfold lines
  infer_instance

instance (user : UserId) : Within scope (findFor user) := by
  unfold findFor
  infer_instance

instance (user : UserId) : Within scope (fetch user) := by
  unfold fetch
  refine .bind inferInstance fun found => ?_
  cases found <;> infer_instance

instance (id : ProductId) : Within scope (requireForSale id) := by
  unfold requireForSale
  infer_instance

section Writing

variable [scope.Covers .writing]

instance (user : UserId) : Within scope (create user) := by
  unfold create
  infer_instance

instance (user : UserId) : Within scope (findOrCreate user) := by
  unfold findOrCreate
  refine .bind inferInstance fun found => ?_
  cases found <;> infer_instance

instance (user : UserId) : Within scope (fetchOrCreate user) := by
  unfold fetchOrCreate
  infer_instance

instance (id : CartId) (request : LineRequest) : Within scope (putLine id request) := by
  unfold putLine
  infer_instance

instance (id : CartId) : Within scope (touch id) := by
  unfold touch
  infer_instance

instance (id : CartId) (requests : List LineRequest) : Within scope (replaceLines id requests) := by
  unfold replaceLines
  infer_instance

instance (id : CartId) : Within scope (clear id) := by
  unfold clear
  infer_instance

instance (user : UserId) (requests : List LineRequest) : Within scope (replace user requests) := by
  unfold replace
  infer_instance

end Writing
end Cart

instance (user : UserId) (id : AddressId) : Within scope (Address.findFor user id) := by
  unfold Address.findFor
  infer_instance

instance (destination : Destination) [scope.Covers .writing] :
    Within scope (OrderAddress.create destination) := by
  unfold OrderAddress.create
  infer_instance

namespace OrderItem

instance (order : OrderId) : Within scope (listFor order) := by
  unfold listFor
  infer_instance

instance (order : OrderId) (id : ItemId) : Within scope (find order id) := by
  unfold find
  infer_instance

instance (order : OrderId) (lines : List PricedLine) [scope.Covers .writing] :
    Within scope (createAll order lines) := by
  unfold createAll
  infer_instance

instance (item : OrderItem) [scope.Covers .writing] : Within scope (save item) := by
  unfold save
  infer_instance

end OrderItem

namespace Payment

instance (id : Uuid) : Within scope (find id) := by
  unfold find
  infer_instance

instance (order : OrderId) : Within scope (findForOrder order) := by
  unfold findForOrder
  infer_instance

instance (reference : String) : Within scope (findByGateway reference) := by
  unfold findByGateway
  infer_instance

section Writing

variable [scope.Covers .writing]

instance (order : OrderId) (method : PaymentMethod) (amount : Cents) (currency : String) :
    Within scope (create order method amount currency) := by
  unfold create
  infer_instance

instance (payment : Payment) : Within scope (save payment) := by
  unfold save
  infer_instance

instance (payment : Payment) : Within scope (refund payment) := by
  unfold refund
  infer_instance

end Writing
end Payment

namespace Order

instance (id : OrderId) : Within scope (find id) := by
  unfold find
  infer_instance

instance (user : UserId) (order : Order) : Within scope (requireOwner user order) := by
  unfold requireOwner
  infer_instance

instance : Within scope listAll := by
  unfold listAll
  infer_instance

instance (user : UserId) (skipped limit : Nat) : Within scope (listFor user skipped limit) := by
  unfold listFor
  infer_instance

instance (user : UserId) : Within scope (countFor user) := by
  unfold countFor
  infer_instance

instance (id : OrderId) : Within scope (OrderDetails.find id) := by
  unfold OrderDetails.find
  refine .bind inferInstance fun found => ?_
  cases found with
  | none => infer_instance
  | some order =>
    refine .bind inferInstance fun items => ?_
    cases order.shippingAddressId <;> infer_instance

instance (id : OrderId) : Within scope (details id) := by
  unfold details
  infer_instance

instance (user : UserId) (id : OrderId) : Within scope (detailsFor user id) := by
  unfold detailsFor
  infer_instance

instance (user : UserId) (id : OrderId) : Within scope (itemsFor user id) := by
  unfold itemsFor
  infer_instance

instance (user : UserId) (page limit : Int) : Within scope (pageFor user page limit) := by
  unfold pageFor
  infer_instance

instance (user : UserId) (source : Source) : Within scope (requestedLines user source) := by
  cases source <;> unfold requestedLines <;> infer_instance

section Writing

variable [scope.Covers .writing]

instance (user : UserId) (totals : OrderTotals) (address : AddressId) (method : PaymentMethod) :
    Within scope (create user totals address method) := by
  unfold create
  infer_instance

instance (order : Order) : Within scope (save order) := by
  unfold save
  infer_instance

instance (now : Instant) (request : LineRequest) : Within scope (reserve now request) := by
  unfold reserve
  infer_instance

instance (user : UserId) (address : AddressId) (method : PaymentMethod) (source : Source) :
    Within scope (checkOut user address method source) := by
  unfold checkOut
  refine .transaction ?_
  refine .bind inferInstance fun found => .bind inferInstance fun address => ?_
  refine .bind inferInstance fun copy => .bind inferInstance fun requested => ?_
  infer_instance

instance (payment : Option Payment) : Within scope (cancelPayment payment) := by
  cases payment <;> unfold cancelPayment <;> infer_instance

instance (order : Order) (payment : Option Payment) :
    Within scope (settleOnCancel order payment) := by
  unfold settleOnCancel
  split <;> infer_instance

instance (paidAt : Instant) (payment : Payment) : Within scope (payOnDelivery paidAt payment) := by
  unfold payOnDelivery
  infer_instance

instance (now : Instant) (order : Order) (payment : Option Payment) :
    Within scope (settleOnDelivery now order payment) := by
  unfold settleOnDelivery
  infer_instance

instance (next : OrderStatus) (now : Instant) (order : Order) (payment : Option Payment) :
    Within scope (settle next now order payment) := by
  cases next <;> unfold settle <;> infer_instance

section Restocking

variable [scope.Covers .restocking]

instance (reason : String) (now : Instant) (item : OrderItem) :
    Within scope (cancelOne reason now item) := by
  unfold cancelOne
  infer_instance

instance (id : OrderId) (reason : String) (now : Instant) :
    Within scope (cancelOpenItems id reason now) := by
  unfold cancelOpenItems
  infer_instance

instance (next : OrderStatus) (now : Instant) (order : Order) :
    Within scope (emptyOnCancel next now order) := by
  unfold emptyOnCancel
  infer_instance

instance (user : UserId) (id : OrderId) (item : ItemId) (reason : String) :
    Within scope (withdrawItem user id item reason) := by
  unfold withdrawItem
  refine .transaction ?_
  refine .bind inferInstance fun found => .bind inferInstance fun order => ?_
  refine .bind inferInstance fun _ => .bind inferInstance fun _ => ?_
  refine .bind inferInstance fun found => .bind inferInstance fun item => ?_
  infer_instance

instance (user : UserId) (id : OrderId) : Within scope (cancelPending user id) := by
  unfold cancelPending
  refine .transaction ?_
  refine .bind inferInstance fun found => .bind inferInstance fun order => ?_
  refine .bind inferInstance fun _ => .bind inferInstance fun _ => ?_
  infer_instance

instance (id : OrderId) (next : OrderStatus) : Within scope (move id next) := by
  unfold move
  refine .transaction ?_
  refine .bind inferInstance fun found => .bind inferInstance fun order => ?_
  infer_instance

end Restocking
end Writing
end Order

namespace Payment

section Writing

variable [scope.Covers .writing]

instance (user : UserId) (id : OrderId) (method : PaymentMethod) (currency : String) :
    Within scope (openIntent user id method currency) := by
  unfold openIntent
  refine .transaction ?_
  refine .bind inferInstance fun found => .bind inferInstance fun order => ?_
  refine .bind inferInstance fun _ => .bind inferInstance fun _ => ?_
  refine .bind inferInstance fun payment => .bind inferInstance fun _ => ?_
  refine .bind inferInstance fun payment => ?_
  split <;> infer_instance

instance (order : Order) (payment : Payment) : Within scope (settle order payment) := by
  unfold settle
  infer_instance

instance (reference reported : String) : Within scope (applyCallback reference reported) := by
  unfold applyCallback
  refine .transaction ?_
  refine .bind inferInstance fun found => .bind inferInstance fun payment => ?_
  refine .bind inferInstance fun found => .bind inferInstance fun order => ?_
  refine .bind inferInstance fun found => .bind inferInstance fun payment => ?_
  refine .bind inferInstance fun confirmation => ?_
  cases confirmation <;> infer_instance

instance (id : OrderId) : Within scope (giveBack id) := by
  unfold giveBack
  infer_instance

end Writing

instance (id : OrderId) [scope.Covers .writing] [scope.Covers .announcing] :
    Within scope (refundForOrder id) := by
  unfold refundForOrder
  infer_instance

instance (user : UserId) (id : OrderId) : Within scope (findForUser user id) := by
  unfold findForUser
  infer_instance

end Payment
end Storefront
