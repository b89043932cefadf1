import Storefront.Proofs.Order.Totals
import Storefront.Proofs.Payment.CancelledOrders
import Storefront.Proofs.Service.History

/-!
The log of what was announced. Whoever reads it from the beginning knows which orders there are and
how each of them stands: a change is announced if and only if it was committed, and with the order
as it was stored then.
-/

namespace Storefront

/-- What a run announces, from its beginning. -/
def eventsOf (currency : String) (steps : List Step) (start : Store) : List Event :=
  (run currency steps start).flatMap (·.events)

namespace Event

/-- The order that an event carries, if it carries one. -/
def order? : Event → Option Order
  | .orderPlaced order => some order
  | .orderItemCancelled order _ => some order
  | .orderCancelled order => some order
  | .orderStatusChanged order _ => some order
  | .paymentUpdated _ => none
  | .refundFailed _ _ => none

/-- The order that is placed, if one is. -/
def placedId? : Event → Option OrderId
  | .orderPlaced order => some order.id
  | _ => none

/-- The order as the last event that carries it has it. -/
def lastOrder (id : OrderId) (log : List Event) : Option Order :=
  ((log.filterMap order?).filter (·.id = id)).getLast?

/-- A move starts from the status that was announced last, and leaves it. -/
def Continues (log : List Event) (event : Event) : Prop :=
  ∀ order previous, event = .orderStatusChanged order previous →
    (lastOrder order.id log).map (·.status) = some previous ∧ previous ≠ order.status

variable {log : List Event} {event : Event} {id : OrderId} {order : Order}

theorem lastOrder_snoc (carried : event.order? = some order) :
    lastOrder id (log ++ [event]) = if order.id = id then some order else lastOrder id log := by
  by_cases hid : order.id = id
  · simp [lastOrder, carried, hid]
  · simp [lastOrder, carried, hid]

theorem lastOrder_snoc_of_none (silent : event.order? = none) :
    lastOrder id (log ++ [event]) = lastOrder id log := by
  simp [lastOrder, silent]

theorem placedId?_of_order?_eq_none (silent : event.order? = none) : event.placedId? = none := by
  cases event <;> simp_all [order?, placedId?]

theorem continues_of_order?_eq_none (silent : event.order? = none) : Continues log event := by
  rintro order previous rfl
  cases silent

end Event

/-- What is said of an order's row in the log: its identifier, its status and its final total. -/
def OrderRow.standing (row : OrderRow) : OrderId × String × Cents :=
  (row.id, row.status, row.finalTotal)

theorem OrderRow.standing_row (order : Order) :
    order.row.standing = (order.id, word order.status, order.finalTotal) := rfl

/-- The log tells which orders are in the tables and how they stand, and each move in it continues
from what the log says before. -/
structure Tables.ToldBy (log : List Event) (t : Tables) : Prop where
  placed : log.filterMap Event.placedId? = t.orders.map (·.id)
  last : ∀ row ∈ t.orders, ∃ order, Event.lastOrder row.id log = some order ∧
    order.row.standing = row.standing
  continues : ∀ before event after, log = before ++ event :: after → event.Continues before

namespace Tables.ToldBy

variable {log : List Event} {t t' : Tables} {event : Event}

theorem of_empty (orders : t.orders = []) : t.ToldBy [] := by
  refine ⟨?_, ?_, ?_⟩
  · rw [orders]
    rfl
  · simp [orders]
  · simp

theorem congr (h : t.ToldBy log)
    (standing : t'.orders.map OrderRow.standing = t.orders.map OrderRow.standing) :
    t'.ToldBy log := by
  refine ⟨?_, ?_, h.continues⟩
  · have hids := congrArg (List.map (·.1)) standing
    rw [List.map_map, List.map_map] at hids
    exact h.placed.trans hids.symm
  · intro row hrow
    have hmem := List.mem_map_of_mem (f := OrderRow.standing) hrow
    rw [standing] at hmem
    obtain ⟨old, hold, hsame⟩ := List.mem_map.mp hmem
    obtain ⟨order, horder, htold⟩ := h.last old hold
    have hid : old.id = row.id := congrArg (·.1) hsame
    exact ⟨order, hid ▸ horder, htold.trans hsame⟩

theorem continues_snoc (h : t.ToldBy log) (hevent : event.Continues log) :
    ∀ before other after, log ++ [event] = before ++ other :: after → other.Continues before := by
  intro before other after hsplit
  rcases split_snoc hsplit with ⟨rfl, rfl, -⟩ | ⟨rest, -, hinit⟩
  · exact hevent
  · exact h.continues before other rest hinit

/-- An event that carries no order says nothing about any. -/
theorem silent (h : t.ToldBy log) (hsilent : event.order? = none) : t.ToldBy (log ++ [event]) := by
  refine ⟨?_, ?_, h.continues_snoc (Event.continues_of_order?_eq_none hsilent)⟩
  · simp [h.placed, Event.placedId?_of_order?_eq_none hsilent]
  · intro row hrow
    rw [Event.lastOrder_snoc_of_none hsilent]
    exact h.last row hrow

/-- A new order is announced as it is stored. -/
theorem orderPlaced {order : Order} (h : t.ToldBy log)
    (orders : t'.orders = t.orders ++ [order.row]) (fresh : ∀ row ∈ t.orders, row.id ≠ order.id) :
    t'.ToldBy (log ++ [.orderPlaced order]) := by
  have hcarried : (Event.orderPlaced order).order? = some order := rfl
  refine ⟨?_, ?_, h.continues_snoc fun _ _ hmoved => by cases hmoved⟩
  · rw [List.filterMap_append, h.placed, orders, List.map_append]
    rfl
  · intro row hrow
    rw [Event.lastOrder_snoc hcarried]
    rw [orders, List.mem_append, List.mem_singleton] at hrow
    rcases hrow with hold | rfl
    · rw [if_neg (fresh row hold).symm]
      exact h.last row hold
    · exact ⟨order, if_pos rfl, rfl⟩

/-- An order that is amended is announced as it is written back. -/
theorem amended {clock : Clock} {order : Order} {items : List OrderItem}
    {change : Order × Option Payment} (coherent : t.Coherent) (h : t.ToldBy log)
    (amended : order.Amended clock t items change t')
    (carried : event.order? = some (change.1.stamp clock.store)) (old : event.placedId? = none)
    (continues : event.Continues log) : t'.ToldBy (log ++ [event]) := by
  have hid : change.1.id = order.id := Order.id_of_fixed amended.fixed
  refine ⟨?_, ?_, h.continues_snoc continues⟩
  · simp [h.placed, old, amended.orderIds_eq]
  · intro row hrow
    rw [Event.lastOrder_snoc carried]
    rcases amended.row_eq coherent hrow with rfl | ⟨hold, hother⟩
    · exact ⟨change.1.stamp clock.store, if_pos rfl, rfl⟩
    · rw [if_neg fun hsame => hother (hsame.symm.trans hid)]
      exact h.last row hold

/-- A cancelled order is announced as it is written back. -/
theorem calledOff {clock : Clock} {user : UserId} {id : OrderId} {order : Order}
    {items : List OrderItem} {payment : Option Payment} (coherent : t.Coherent) (h : t.ToldBy log)
    (cancelled : Order.CalledOff clock user id t order items payment t') :
    t'.ToldBy (log ++ [.orderCancelled ((order.calledOff payment).1.stamp clock.store)]) :=
  h.amended coherent (cancelled.amended coherent) rfl rfl (by rintro _ _ ⟨⟩)

/-- The log has an order that is found as it stands. -/
theorem lastOrder_of_found {order : Order} {id : OrderId} (h : t.ToldBy log)
    (found : t.orders.find? (fun row => row.id = id) = some order.row) :
    (Event.lastOrder id log).map (·.status) = some order.status := by
  obtain ⟨hstored, rfl⟩ := mem_of_find?_key found
  obtain ⟨told, htold, hsame⟩ := h.last order.row hstored
  have hstatus : told.status = order.status :=
    OrderStatus.word_inj.mp (congrArg (fun standing => standing.2.1) hsame)
  rw [htold, Option.map_some, hstatus]

/-- A move is announced with the status that it starts from. -/
theorem moved {clock : Clock} {id : OrderId} {next : OrderStatus} {order : Order}
    {items : List OrderItem} {payment : Option Payment} (coherent : t.Coherent) (h : t.ToldBy log)
    (moved : Order.Moved clock id next t order items payment t') :
    t'.ToldBy (log ++ [.orderStatusChanged
      ((order.moved next clock.wall payment).1.stamp clock.store) order.status]) := by
  refine h.amended coherent (moved.amended coherent) rfl rfl ?_
  rintro _ _ ⟨⟩
  have hid : (order.moved next clock.wall payment).1.id = id :=
    (Order.id_of_fixed (Order.fixed_moved order next clock.wall payment)).trans
      (Order.id_of_found moved.order_found)
  have hstatus := Order.status_moved order next clock.wall payment
  have htold := h.lastOrder_of_found moved.order_found
  rw [← hid] at htold
  refine ⟨htold, fun hsame => ?_⟩
  have hallowed := moved.allowed
  rw [hsame.trans hstatus, OrderStatus.canBecome_self] at hallowed
  cases hallowed

end Tables.ToldBy

/-- Amending the payment state of an order leaves it where it stands. -/
theorem Order.Amended.standing_eq {clock : Clock} {t t' : Tables} {order : Order}
    {items : List OrderItem} {change : Order × Option Payment} (coherent : t.Coherent)
    (h : order.Amended clock t items change t') (status : change.1.status = order.status)
    (finalTotal : change.1.finalTotal = order.finalTotal) :
    t'.orders.map OrderRow.standing = t.orders.map OrderRow.standing := by
  have hid : change.1.id = order.id := id_of_fixed h.fixed
  rw [h.orders_eq]
  refine map_updateWhere_of_mem fun row hrow hsame => ?_
  have hrowId : row.id = order.id := (of_decide_eq_true hsame).trans hid
  have hrowEq : row = order.row :=
    eq_of_key_eq coherent.orders_key hrow (mem_of_find?_key h.order_found).1 hrowId
  rw [hrowEq, overwrite_row h.fixed, OrderRow.standing_row, OrderRow.standing_row]
  exact congr (congrArg Prod.mk hid) (congr (congrArg Prod.mk (congrArg word status)) finalTotal)

namespace Tables.ToldBy

variable {context : Context} {fault : Option Fault} {store : Store} {operation : Operation}
  {log events : List Event} {t' : Tables}

/-- What an effect announces is told with the rest. -/
theorem effect (coherent : store.tables.Coherent) (h : store.tables.ToldBy log)
    (heffect : operation.Effect context fault store events t') : t'.ToldBy (log ++ events) := by
  cases heffect with
  | placed asked hasLines placed => exact h.orderPlaced placed.orders_eq placed.order_fresh
  | itemCancelled cancelled answered =>
    subst answered
    exact h.amended coherent cancelled.amended rfl rfl (by rintro _ _ ⟨⟩)
  | orderCancelled cancelled answered =>
    subst answered
    exact h.calledOff coherent cancelled
  | orderRefunded cancelled answered due refund =>
    subst answered
    have hcancelled := h.calledOff coherent cancelled
    have hcoherent := coherent.amended (cancelled.amended coherent)
    rw [List.append_cons]
    exact (hcancelled.congr (refund.amended.standing_eq hcoherent rfl rfl)).silent rfl
  | refundFailed cancelled answered due failed =>
    subst answered
    rw [List.append_cons]
    exact (h.calledOff coherent cancelled).silent rfl
  | statusChanged moved answered =>
    subst answered
    exact h.moved coherent moved
  | intentCreated opened =>
    refine ToldBy.silent ?_ rfl
    rw [opened.changed]
    exact h.congr rfl
  | @paymentConfirmed _ _ _ _ _ confirmation _ called changes =>
    refine ToldBy.silent ?_ rfl
    cases confirmation with
    | alreadyPaid => exact absurd rfl changes
    | paid => exact h.congr (called.amended.standing_eq coherent rfl rfl)
    | failed =>
      rw [called.changed]
      exact h.congr rfl
  | refunded refund => exact (h.congr (refund.amended.standing_eq coherent rfl rfl)).silent rfl
  | cartCreated created =>
    rw [created.changed, List.append_nil]
    exact h.congr rfl
  | cartReplaced untouched =>
    rw [untouched, List.append_nil]
    exact h.congr rfl
  | productRevised found natural changed =>
    rw [changed, List.append_nil]
    exact h.congr rfl

theorem step (currency : String) {step : Step} (served : step.IsServed)
    (coherent : store.tables.Coherent) (h : store.tables.ToldBy log) :
    (step.run currency store).store.tables.ToldBy (log ++ (step.run currency store).events) := by
  rcases step.run_effect currency store served with ⟨hsame, hnone⟩ | ⟨operation, -, heffect⟩
  · rw [hsame, hnone, List.append_nil]
    exact h
  · exact h.effect coherent heffect

end Tables.ToldBy

theorem run_snoc (currency : String) (steps : List Step) (step : Step) (start : Store) :
    run currency (steps ++ [step]) start =
      run currency steps start ++ [step.run currency (storeAfter currency steps start)] := by
  induction steps generalizing start with
  | nil => rfl
  | cons first rest ih =>
    rw [List.cons_append, run, ih]
    rfl

theorem eventsOf_snoc (currency : String) (steps : List Step) (step : Step) (start : Store) :
    eventsOf currency (steps ++ [step]) start = eventsOf currency steps start ++
      (step.run currency (storeAfter currency steps start)).events := by
  rw [eventsOf, run_snoc, List.flatMap_append, List.flatMap_singleton]
  rfl

/-- Along a run from a store without orders, what was announced so far tells what is in the
tables. -/
theorem toldBy_storeAfter (currency : String) {start : Store} (orders : start.tables.orders = [])
    (items : start.tables.orderItems = []) (steps : List Step)
    (served : ∀ step ∈ steps, step.IsServed) :
    (storeAfter currency steps start).tables.Coherent ∧
      (storeAfter currency steps start).tables.ToldBy (eventsOf currency steps start) := by
  induction steps, served using served_induction with
  | nil => exact ⟨.of_empty orders items, .of_empty orders⟩
  | snoc steps step served last ih =>
    rw [storeAfter_snoc, eventsOf_snoc]
    exact ⟨step.coherent currency last ih.1, ih.2.step currency last ih.1⟩

/-- In a run of calls and requests from a store without orders, whatever faults they meet, the
events announced so far tell the truth. An order is placed in exactly one of them if it is in the
store, and in none otherwise. Every order is stored with the status and the final total that it has
in the last event that carries it. A change of status names as the previous one the status in the
last event before it that carries the order, and this is not the new one. -/
theorem events_truthful (currency : String) (steps : List Step) (start : Store)
    (orders : start.tables.orders = []) (items : start.tables.orderItems = [])
    (served : ∀ step ∈ steps, step.IsServed) :
    let log := eventsOf currency steps start
    let t := (storeAfter currency steps start).tables
    (∀ id, (log.filterMap Event.placedId?).count id = if id ∈ t.orders.map (·.id) then 1 else 0) ∧
      (∀ row ∈ t.orders, ∃ order, Event.lastOrder row.id log = some order ∧
        row.status = word order.status ∧ row.finalTotal = order.finalTotal) ∧
      ∀ before order previous after,
        log = before ++ .orderStatusChanged order previous :: after →
          previous ≠ order.status ∧
            ∃ earlier, Event.lastOrder order.id before = some earlier ∧
              earlier.status = previous := by
  obtain ⟨hcoherent, htold⟩ := toldBy_storeAfter currency orders items steps served
  refine ⟨fun id => ?_, fun row hrow => ?_, fun before order previous after hlog => ?_⟩
  · rw [htold.placed]
    exact hcoherent.orders_key.count
  · obtain ⟨order, hlast, hstanding⟩ := htold.last row hrow
    exact ⟨order, hlast, (congrArg (·.2.1) hstanding).symm, (congrArg (·.2.2) hstanding).symm⟩
  · obtain ⟨hearlier, hchanged⟩ := htold.continues before _ after hlog order previous rfl
    exact ⟨hchanged, Option.map_eq_some_iff.mp hearlier⟩

/-- An order is confirmed and shipped after one of its two items is cancelled, at the second
attempt. -/
def Step.oneItemLess : List Step :=
  [ofCall (.placeDirect 7 6 .cod [⟨3, 2⟩, ⟨4, 1⟩]),
    ofCall (.updateOrderStatus 1 .confirmed),
    { ofCall (.cancelItem 7 1 1 "Too many") with fault := some ⟨.update, .orders, 1⟩ },
    ofCall (.cancelItem 7 1 1 "Too many"),
    ofCall (.updateOrderStatus 1 .shipped)]

theorem events_oneItemLess :
    let log := eventsOf "INR" Step.oneItemLess .stocked
    (log.filterMap Event.order?).map (fun order => (order.id, order.status, order.finalTotal)) =
        [(1, .pending, 5808), (1, .confirmed, 5808), (1, .confirmed, 4000), (1, .shipped, 4000)] ∧
      (∀ id, (log.filterMap Event.placedId?).count id = if id ∈ [1] then 1 else 0) ∧
      ∃ order, Event.lastOrder 1 log = some order ∧ order.finalTotal = 4000 := by
  have hserved : ∀ step ∈ Step.oneItemLess, step.IsServed := by
    simp [Step.oneItemLess, Step.IsServed, Step.ofCall]
  have hstored : (storeAfter "INR" Step.oneItemLess .stocked).tables.orders.map
      (fun row => (row.id, row.finalTotal)) = [(1, 4000)] := by
    decide +kernel
  obtain ⟨row, hrows, hrow⟩ := List.map_eq_singleton_iff.mp hstored
  obtain ⟨hid, htotal⟩ := Prod.mk.inj hrow
  obtain ⟨hplaced, hlast, -⟩ := events_truthful "INR" Step.oneItemLess .stocked rfl rfl hserved
  rw [hrows] at hplaced hlast
  obtain ⟨order, horder, -, hsame⟩ := hlast row List.mem_cons_self
  rw [List.map_singleton, hid] at hplaced
  rw [hid] at horder
  exact ⟨by decide +kernel, hplaced, order, horder, hsame.symm.trans htotal⟩

end Storefront
