import Storefront.Cart.Replacement
import Storefront.Order.Checkout
import Storefront.Order.Fulfilment
import Storefront.Order.Listing
import Storefront.Payment.Confirmation
import Storefront.Payment.Intent

/-!
The operations of the service, and what each answers when it succeeds.
-/

namespace Storefront

inductive Operation where
  | placeFromCart (user : UserId) (address : AddressId) (method : PaymentMethod)
  | placeDirect (user : UserId) (address : AddressId) (method : PaymentMethod)
      (items : List LineRequest)
  | cancelItem (user : UserId) (order : OrderId) (item : ItemId) (reason : String)
  | cancelOrder (user : UserId) (order : OrderId)
  | updateOrderStatus (order : OrderId) (status : OrderStatus)
  | getOrder (user : UserId) (order : OrderId)
  | getAnyOrder (order : OrderId)
  | listOrders (user : UserId) (page limit : Int)
  | listAllOrders
  | listItems (user : UserId) (order : OrderId)
  | createIntent (user : UserId) (order : OrderId) (method : PaymentMethod)
  | confirmPayment (reference status : String)
  | refundPayment (order : OrderId)
  | getPayment (user : UserId) (order : OrderId)
  | getCart (user : UserId)
  | replaceCart (user : UserId) (items : List LineRequest)
  | reviseProduct (product : ProductId) (stock : Option Int) (isActive : Option Bool)
  deriving DecidableEq, Repr

inductive Reply where
  | order (order : Order)
  | orderDetails (details : OrderDetails)
  | orderPage (page : OrderPage)
  | orders (orders : List Order)
  | orderItems (items : List OrderItem)
  | payment (payment : Payment)
  | paymentIntent (intent : PaymentIntent)
  | cart (cart : FilledCart)
  | product (product : Product)
  deriving DecidableEq, Repr

def Operation.perform : Operation → Session Reply
  | .placeFromCart user address method =>
    .orderDetails <$> Order.placeFromCart user address method
  | .placeDirect user address method items =>
    .orderDetails <$> Order.placeDirect user address method items
  | .cancelItem user order item reason => .order <$> Order.cancelItem user order item reason
  | .cancelOrder user order => .order <$> Order.cancel user order
  | .updateOrderStatus order status => .order <$> Order.updateStatus order status
  | .getOrder user order => .orderDetails <$> Order.detailsFor user order
  | .getAnyOrder order => .orderDetails <$> Order.details order
  | .listOrders user page limit => .orderPage <$> Order.pageFor user page limit
  | .listAllOrders => .orders <$> Order.listAll
  | .listItems user order => .orderItems <$> Order.itemsFor user order
  | .createIntent user order method => .paymentIntent <$> Payment.createIntent user order method
  | .confirmPayment reference status => .payment <$> Payment.confirm reference status
  | .refundPayment order => .payment <$> Payment.refundForOrder order
  | .getPayment user order => .payment <$> Payment.findForUser user order
  | .getCart user => .cart <$> Cart.fetchOrCreate user
  | .replaceCart user items => .cart <$> Cart.replace user items
  | .reviseProduct product stock isActive => .product <$> Product.revise product stock isActive

end Storefront
