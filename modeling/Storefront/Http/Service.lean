import Storefront.Http.Route
import Storefront.Json.Rows

/-!
Serving requests: the operation that a request asks for is performed, and its outcome is put into a
response.
-/

namespace Storefront.Http

/-- What a response says of an operation that succeeded. -/
def doneMessage : Operation → String
  | .placeFromCart _ _ _ => "Order created successfully"
  | .placeDirect _ _ _ _ => "Order created successfully"
  | .cancelItem _ _ _ _ => "Order item cancelled successfully"
  | .cancelOrder _ _ => "Order cancelled successfully"
  | .updateOrderStatus _ _ => "Order status updated"
  | .getOrder _ _ => "Get order successfully"
  | .getAnyOrder _ => "Get order successfully"
  | .listOrders _ _ _ => "Get my orders successfully"
  | .listAllOrders => "Get all orders successfully"
  | .listItems _ _ => "Get order items successfully"
  | .createIntent _ _ _ => "Payment intent created"
  | .confirmPayment _ _ => "Payment confirmed successfully"
  | .refundPayment _ => "Payment refunded"
  | .getPayment _ _ => "Get payment successfully"
  | .getCart _ => "Get cart successfully"
  | .replaceCart _ _ => "Cart updated successfully"
  | .reviseProduct _ _ _ => "Product updated"

def Response.ofOutcome (operation : Operation) : Except Error Reply → Response
  | .ok reply => .success reply.toJson (doneMessage operation)
  | .error cause => .failure cause

/-- The response as it is sent: one to a request for the head has no body. -/
def Response.sentTo (request : Request) (response : Response) : Response :=
  if request.method = .head then .bare response.status else response

def serve (request : Request) : Session Response :=
  match request.operation with
  | .error refusal => return refusal.response.sentTo request
  | .ok operation => do
    let outcome ← Session.attempt operation.perform
    return (Response.ofOutcome operation outcome).sentTo request

end Storefront.Http
