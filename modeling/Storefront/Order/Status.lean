import Storefront.Words

/-!
States of orders and of their items, and the moves between the states of an order.
-/

namespace Storefront

inductive OrderStatus where
  | pending
  | confirmed
  | shipped
  | delivered
  | cancelled
  | partiallyCancelled
  deriving DecidableEq, Repr

namespace OrderStatus

instance : Worded OrderStatus where
  kind := "OrderStatus"
  all := [.pending, .confirmed, .shipped, .delivered, .cancelled, .partiallyCancelled]
  word
    | .pending => "pending"
    | .confirmed => "confirmed"
    | .shipped => "shipped"
    | .delivered => "delivered"
    | .cancelled => "cancelled"
    | .partiallyCancelled => "partially_cancelled"

/-- Whether an administrator may move an order from one state to the other: a delivered or
cancelled order stays as it is, a shipped one can only be delivered, and nothing becomes pending. -/
def canBecome : OrderStatus → OrderStatus → Bool
  | .delivered, _ => false
  | .cancelled, _ => false
  | _, .pending => false
  | .shipped, next => next == .delivered
  | .pending, _ => true
  | .confirmed, next => next != .confirmed
  | .partiallyCancelled, next => next != .partiallyCancelled

/-- The states that an order may be moved to. -/
def successors (s : OrderStatus) : List OrderStatus :=
  Worded.all.filter s.canBecome

@[simp] theorem canBecome_self (s : OrderStatus) : s.canBecome s = false := by
  cases s <;> rfl

@[simp] theorem ofWord?_word (s : OrderStatus) : Worded.ofWord? (word s) = some s := by
  cases s <;> decide +kernel

end OrderStatus

inductive ItemStatus where
  | pending
  | confirmed
  | cancelled
  | refunded
  deriving DecidableEq, Repr

namespace ItemStatus

instance : Worded ItemStatus where
  kind := "OrderItemStatus"
  all := [.pending, .confirmed, .cancelled, .refunded]
  word
    | .pending => "pending"
    | .confirmed => "confirmed"
    | .cancelled => "cancelled"
    | .refunded => "refunded"

/-- A cancelled or refunded item cannot be cancelled again. -/
def isCancellable : ItemStatus → Bool
  | .pending => true
  | .confirmed => true
  | .cancelled => false
  | .refunded => false

@[simp] theorem ofWord?_word (s : ItemStatus) : Worded.ofWord? (word s) = some s := by
  cases s <;> decide +kernel

end ItemStatus
end Storefront
