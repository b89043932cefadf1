import Storefront.Http.Body
import Storefront.Http.Identity
import Storefront.Http.MediaType
import Storefront.Http.Query
import Storefront.Service.Operation
import Storefront.Text.Lowercase

/-!
What a request asks for. Its path names a resource, which is open to one role and serves certain
methods; path, query and body give the operation its arguments. A request that asks for no
operation is refused before anything is done: first for its path, then for the identity of the
sender, then for its method, then for each argument in the order path, query, type and size of the
body, body, and last for texts that an operation cannot take.
-/

namespace Storefront.Http

/-- A resource; its parts of the path are still as they were written. -/
inductive Resource where
  | orders
  | order (id : String)
  | orderCancellation (id : String)
  | orderItems (id : String)
  | itemCancellation (id item : String)
  | orderPayment (id : String)
  | cart
  | paymentIntents
  | paymentConfirmations
  | allOrders
  | anyOrder (id : String)
  | orderStatus (id : String)
  | refunds (id : String)
  | product (id : String)
  deriving DecidableEq, Repr

namespace Resource

/-- The resource with the given path. An argument that ends the path is not empty; one before its
end may be. -/
def ofSegments? : List String → Option Resource
  | ["", "orders"] => some .orders
  | ["", "orders", id] => if id = "" then none else some (.order id)
  | ["", "orders", id, "cancel"] => some (.orderCancellation id)
  | ["", "orders", id, "items"] => some (.orderItems id)
  | ["", "orders", id, "payment"] => some (.orderPayment id)
  | ["", "orders", id, "items", item, "cancel"] => some (.itemCancellation id item)
  | ["", "carts", "me"] => some .cart
  | ["", "payments", "intent"] => some .paymentIntents
  | ["", "payments", "confirm"] => some .paymentConfirmations
  | ["", "admin", "orders"] => some .allOrders
  | ["", "admin", "orders", id] => if id = "" then none else some (.anyOrder id)
  | ["", "admin", "orders", id, "status"] => some (.orderStatus id)
  | ["", "admin", "payments", "refund", id] => if id = "" then none else some (.refunds id)
  | ["", "admin", "products", id] => if id = "" then none else some (.product id)
  | _ => none

/-- The role that a resource is open to. -/
def audience : Resource → Role
  | .orders | .order _ | .orderCancellation _ | .orderItems _ | .itemCancellation _ _
  | .orderPayment _ | .cart | .paymentIntents | .paymentConfirmations => .user
  | .allOrders | .anyOrder _ | .orderStatus _ | .refunds _ | .product _ => .admin

/-- The methods that a resource serves. -/
def methods : Resource → List Method
  | .orders => [.get, .post]
  | .order _ => [.get]
  | .orderCancellation _ => [.put]
  | .orderItems _ => [.get]
  | .itemCancellation _ _ => [.put]
  | .orderPayment _ => [.get]
  | .cart => [.get, .put]
  | .paymentIntents => [.post]
  | .paymentConfirmations => [.post]
  | .allOrders => [.get]
  | .anyOrder _ => [.get]
  | .orderStatus _ => [.put]
  | .refunds _ => [.post]
  | .product _ => [.patch]

end Resource

/-- A request for the head of a response is served like one for the whole. -/
def Method.effective : Method → Method
  | .head => .get
  | method => method

/-- Why a request asks for no operation. -/
inductive Refusal where
  /-- The request is none that the service understands. -/
  | unfit (status : Nat)
  | error (cause : Error)
  deriving DecidableEq, Repr

def Refusal.response : Refusal → Response
  | .unfit status => .bare status
  | .error cause => .failure cause

/-- An argument in the path: a percent-coded 32-bit integer. -/
def pathInteger (coded : String) : Except Refusal Int :=
  match (Text.percentDecode? coded.toList).bind (Text.signedWord? 32) with
  | some value => .ok value
  | none => .error (.unfit 400)

/-- The status of a refusal of a body. -/
def BodyFault.status : BodyFault → Nat
  | .malformed => 400
  | .misshapen => 422

/-- The most bytes that a body may have: two mebibytes. -/
def bodyLimit : Nat := 2_097_152

/-- The body of a request, which has to be announced as JSON. -/
def Request.decodeBody {α : Type} (request : Request) (decoder : Decoder α) : Except Refusal α :=
  if !request.headers.announceJson then .error (.unfit 415)
  else if bodyLimit < request.body.utf8ByteSize then .error (.unfit 413)
  else
    match decoder.run request.body with
    | .ok value => .ok value
    | .error fault => .error (.unfit fault.status)

/-- A payment method by its name, in any case and with blanks around it. -/
def readMethod (name : String) : Except Refusal PaymentMethod :=
  match Worded.ofWord? (Text.lowercase (Text.trim name)) with
  | some method => .ok method
  | none => .error (.error (.unsupportedPaymentMethod name))

/-- The reason for a cancellation, which cannot be blank. -/
def readReason (text : String) : Except Refusal String :=
  let reason := Text.trim text
  if reason = "" then .error (.error (.invalidInput "A cancellation reason is required"))
  else .ok reason

/-- An order status by its name, with blanks around it. -/
def readStatus (name : String) : Except Refusal OrderStatus :=
  match Worded.ofWord? (Text.trim name) with
  | some status => .ok status
  | none => .error (.error (.invalidInput ("Unknown order status '" ++ name ++ "'")))

/-- The operation that a user's request for the resource asks for. -/
def Resource.operation (user : UserId) (request : Request) :
    Resource → Except Refusal Operation
  | .orders =>
    if request.method = .post then do
      let body ← request.decodeBody checkoutBody
      let method ← readMethod body.paymentMethod
      match body.orderType with
      | .cart => return .placeFromCart user body.addressId method
      | .direct => return .placeDirect user body.addressId method body.items
    else
      match pageQuery? request.query with
      | some (page, limit) => .ok (.listOrders user page limit)
      | none => .error (.unfit 400)
  | .order id => return .getOrder user (← pathInteger id)
  | .orderCancellation id => return .cancelOrder user (← pathInteger id)
  | .orderItems id => return .listItems user (← pathInteger id)
  | .itemCancellation id item => do
    let id ← pathInteger id
    let item ← pathInteger item
    let reason ← readReason (← request.decodeBody cancelItemBody)
    return .cancelItem user id item reason
  | .orderPayment id => return .getPayment user (← pathInteger id)
  | .cart =>
    if request.method = .put then do
      return .replaceCart user (← request.decodeBody cartBody)
    else .ok (.getCart user)
  | .paymentIntents => do
    let body ← request.decodeBody intentBody
    return .createIntent user body.orderId (← readMethod body.method)
  | .paymentConfirmations => do
    let body ← request.decodeBody confirmationBody
    discard <| readMethod body.method
    return .confirmPayment body.paymentId (Text.lowercase (Text.trim body.status))
  | .allOrders => .ok .listAllOrders
  | .anyOrder id => return .getAnyOrder (← pathInteger id)
  | .orderStatus id => do
    let id ← pathInteger id
    return .updateOrderStatus id (← readStatus (← request.decodeBody orderStatusBody))
  | .refunds id => return .refundPayment (← pathInteger id)
  | .product id => do
    let id ← pathInteger id
    let body ← request.decodeBody productBody
    return .reviseProduct id body.stock body.isActive

/-- The operation that a request asks for. -/
def Request.operation (request : Request) : Except Refusal Operation :=
  match Resource.ofSegments? request.segments with
  | none => .error (.unfit 404)
  | some resource =>
    match identify resource.audience request.headers with
    | .error cause => .error (.error cause)
    | .ok user =>
      if request.method.effective ∈ resource.methods then resource.operation user request
      else .error (.unfit 405)

end Storefront.Http
