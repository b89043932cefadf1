import Storefront.Proofs.Catalog.Conservation
import Storefront.Proofs.Http.Identity
import Storefront.Proofs.Service.Belonging

/-!
Users are isolated from each other. A call of a user's leaves what belongs to the others, and
answers and announces nothing of it; about an order of another user it is refused.
-/

namespace Storefront

open Session

/-- The order that an operation names. -/
def Operation.order? : Operation → Option OrderId
  | .cancelItem _ id _ _ => some id
  | .cancelOrder _ id => some id
  | .updateOrderStatus id _ => some id
  | .getOrder _ id => some id
  | .getAnyOrder id => some id
  | .listItems _ id => some id
  | .createIntent _ id _ => some id
  | .refundPayment id => some id
  | .getPayment _ id => some id
  | _ => none

/-- What a user is told who asks for the order of another. -/
def Error.othersOrder : Error :=
  .forbidden "Order belongs to another user"

section Refusals

variable {context : Context} {p : Progress} {user : UserId} {id : OrderId} {order : Order}

namespace Order

theorem refuses_requireOwner (foreign : order.userId ≠ user) :
    Refuses (order.requireOwner user) context p Error.othersOrder := by
  rw [requireOwner, decide_eq_false foreign]
  exact refuses_require

/-- A session that begins with the order of another user is refused. -/
theorem refuses_foreign {α : Type} {next : Order → Session α} (calm : p.fault = none)
    (stored : p.tables.orders.find? (fun row => row.id = id) = some order.row)
    (foreign : order.userId ≠ user) :
    Refuses (do
      let order ← found .notFound (← find id)
      order.requireOwner user
      next order) context p Error.othersOrder := by
  have hfind : Returns (find id) context p (some order) p :=
    (returns_find calm).mpr ⟨stored, rfl⟩
  refine hfind.refuses (Returns.refuses (returns_found.mpr ⟨rfl, rfl⟩) ?_)
  exact (refuses_requireOwner foreign).bind _

/-- A session that begins with an order of the user's own is refused if what follows is. -/
theorem refuses_owned {α : Type} {next : Order → Session α} {cause : Error} (calm : p.fault = none)
    (stored : p.tables.orders.find? (fun row => row.id = id) = some order.row)
    (owner : order.userId = user) (h : Refuses (next order) context p cause) :
    Refuses (do
      let order ← found .notFound (← find id)
      order.requireOwner user
      next order) context p cause := by
  have hfind : Returns (find id) context p (some order) p :=
    (returns_find calm).mpr ⟨stored, rfl⟩
  have howned : Returns (order.requireOwner user) context p ⟨⟩ p :=
    returns_requireOwner.mpr ⟨owner, rfl⟩
  exact hfind.refuses (Returns.refuses (returns_found.mpr ⟨rfl, rfl⟩) (howned.refuses h))

theorem refuses_foreign_details (calm : p.fault = none) (coherent : p.tables.Coherent)
    (stored : p.tables.orders.find? (fun row => row.id = order.id) = some order.row)
    (foreign : order.userId ≠ user) :
    Refuses (detailsFor user order.id) context p Error.othersOrder := by
  obtain ⟨found, hdetails⟩ : ∃ found, Returns (details order.id) context p found p :=
    exists_details calm stored fun row hrow _ => coherent.items_read row hrow
  obtain ⟨hid, hstored, -⟩ := (returns_details calm).mp hdetails
  have hrow := hstored.order_found
  rw [hid, stored, Option.some.injEq] at hrow
  have hsame : found.order.userId ≠ user := by
    rw [← row_injective hrow]
    exact foreign
  exact hdetails.refuses ((refuses_requireOwner hsame).bind _)

/-- An item of another order than the one that is named cannot be cancelled. -/
theorem refuses_otherItem {item : ItemRow} (reason : String) (calm : p.fault = none)
    (coherent : p.tables.Coherent) (stored : item ∈ p.tables.orderItems)
    (other : item.orderId ≠ id) :
    ∃ cause, Refuses (cancelItem user id item.id reason) context p cause := by
  suffices h : ∃ cause, Refuses (withdrawItem user id item.id reason) context p cause by
    obtain ⟨cause, hcause⟩ := h
    exact ⟨cause, hcause.bind _⟩
  have hmissing : Returns (OrderItem.find id item.id) context p none p := by
    refine (OrderItem.returns_find calm).mpr ⟨List.find?_eq_none.mpr fun row hrow hfound => ?_, rfl⟩
    rw [Bool.and_eq_true, decide_eq_true_eq, decide_eq_true_eq] at hfound
    rw [eq_of_key_eq coherent.items_key hrow stored hfound.1] at hfound
    exact other hfound.2
  cases hrow : p.tables.orders.find? fun row => row.id = id with
  | none =>
    have hfind : Returns (find id) context p none p := (returns_find calm).mpr ⟨hrow, rfl⟩
    exact ⟨_, (hfind.refuses (refuses_found.bind _)).transaction⟩
  | some row =>
    obtain ⟨order, rfl⟩ := coherent.orders_read row (List.mem_of_find?_eq_some hrow)
    by_cases howner : order.userId = user
    · by_cases hopen : (order.status ≠ .shipped && order.status ≠ .delivered) = true
      · refine ⟨.notFound, (refuses_owned calm hrow howner ?_).transaction⟩
        refine Returns.refuses (a := ⟨⟩) (returns_require.mpr ⟨hopen, rfl⟩) ?_
        exact hmissing.refuses (refuses_found.bind _)
      · refine ⟨.orderAlreadyProcessed, (refuses_owned calm hrow howner ?_).transaction⟩
        rw [Bool.not_eq_true] at hopen
        rw [hopen]
        exact refuses_require.bind _
    · exact ⟨_, (refuses_foreign calm hrow howner).transaction⟩

end Order

/-- A user's call about an order of another is refused. -/
theorem Operation.refuses_foreign {operation : Operation} (calm : p.fault = none)
    (coherent : p.tables.Coherent) (sender : operation.user? = some user)
    (named : operation.order? = some id)
    (stored : p.tables.orders.find? (fun row => row.id = id) = some order.row)
    (foreign : order.userId ≠ user) :
    Refuses operation.perform context p Error.othersOrder := by
  have hrefused {α : Type} (next : Order → Session α) : Refuses (do
      let order ← found .notFound (← Order.find id)
      order.requireOwner user
      next order) context p Error.othersOrder := Order.refuses_foreign calm stored foreign
  cases operation with
  | cancelItem =>
    obtain rfl := Option.some.inj sender
    obtain rfl := Option.some.inj named
    exact (((hrefused _).transaction).bind _).map _
  | cancelOrder =>
    obtain rfl := Option.some.inj sender
    obtain rfl := Option.some.inj named
    exact (((hrefused _).transaction).bind _).map _
  | getOrder =>
    obtain rfl := Option.some.inj sender
    obtain rfl := Option.some.inj named
    obtain ⟨-, rfl⟩ := mem_of_find?_key stored
    exact (Order.refuses_foreign_details calm coherent stored foreign).map _
  | listItems =>
    obtain rfl := Option.some.inj sender
    obtain rfl := Option.some.inj named
    exact (hrefused _).map _
  | createIntent =>
    obtain rfl := Option.some.inj sender
    obtain rfl := Option.some.inj named
    refine Refuses.map (Returns.refuses (returns_read.mpr ⟨rfl, rfl⟩) ?_) _
    exact ((hrefused _).transaction).bind _
  | getPayment =>
    obtain rfl := Option.some.inj sender
    obtain rfl := Option.some.inj named
    exact (hrefused _).map _
  | updateOrderStatus => cases sender
  | getAnyOrder => cases sender
  | refundPayment => cases sender
  | _ => cases named

end Refusals

namespace Http

/-- If anything is asked for, it is something of the user's or no user's own. -/
def AskedBy (user : UserId) (outcome : Except Refusal Operation) : Prop :=
  ∀ operation, outcome = .ok operation → operation.user? = some user ∨ operation.user? = none

theorem askedBy_error (user : UserId) (refusal : Refusal) : AskedBy user (.error refusal) := by
  intro operation h
  cases h

theorem askedBy_ok {user : UserId} {operation : Operation}
    (h : operation.user? = some user ∨ operation.user? = none) : AskedBy user (.ok operation) := by
  rintro _ ⟨⟩
  exact h

theorem askedBy_bind {α : Type} {user : UserId} {first : Except Refusal α}
    {next : α → Except Refusal Operation} (h : ∀ a, AskedBy user (next a)) :
    AskedBy user (first >>= next) := by
  cases first with
  | error refusal => exact askedBy_error user refusal
  | ok a => exact h a

theorem askedBy_ite {user : UserId} {condition : Prop} [Decidable condition]
    {yes no : Except Refusal Operation} (hyes : AskedBy user yes) (hno : AskedBy user no) :
    AskedBy user (if condition then yes else no) := by
  split
  · exact hyes
  · exact hno

/-- What a request for a resource asks for is done for the user who sends it. -/
theorem Resource.askedBy_operation (user : UserId) (request : Request) (resource : Resource) :
    AskedBy user (resource.operation user request) := by
  cases resource with
  | orders =>
    refine askedBy_ite (askedBy_bind fun body => askedBy_bind fun method => ?_) ?_
    · cases body.orderType with
      | cart => exact askedBy_ok (.inl rfl)
      | direct => exact askedBy_ok (.inl rfl)
    · cases pageQuery? request.query with
      | some page => exact askedBy_ok (.inl rfl)
      | none => exact askedBy_error user _
  | cart =>
    exact askedBy_ite (askedBy_bind fun items => askedBy_ok (.inl rfl)) (askedBy_ok (.inl rfl))
  | order id => exact askedBy_bind fun id => askedBy_ok (.inl rfl)
  | orderCancellation id => exact askedBy_bind fun id => askedBy_ok (.inl rfl)
  | orderItems id => exact askedBy_bind fun id => askedBy_ok (.inl rfl)
  | itemCancellation id item =>
    exact askedBy_bind fun id => askedBy_bind fun item => askedBy_bind fun body =>
      askedBy_bind fun reason => askedBy_ok (.inl rfl)
  | orderPayment id => exact askedBy_bind fun id => askedBy_ok (.inl rfl)
  | paymentIntents =>
    exact askedBy_bind fun body => askedBy_bind fun method => askedBy_ok (.inl rfl)
  | paymentConfirmations =>
    exact askedBy_bind fun body => askedBy_bind fun method => askedBy_ok (.inr rfl)
  | allOrders => exact askedBy_ok (.inr rfl)
  | anyOrder id => exact askedBy_bind fun id => askedBy_ok (.inr rfl)
  | orderStatus id =>
    exact askedBy_bind fun id => askedBy_bind fun body => askedBy_bind fun status =>
      askedBy_ok (.inr rfl)
  | refunds id => exact askedBy_bind fun id => askedBy_ok (.inr rfl)
  | product id => exact askedBy_bind fun id => askedBy_bind fun body => askedBy_ok (.inr rfl)

/-- A user's operation is performed for the user that the headers of the request name. -/
theorem names_of_operation {user : UserId} {request : Request} {operation : Operation}
    (h : request.operation = .ok operation) (sender : operation.user? = some user) :
    request.headers.Names user := by
  unfold Request.operation at h
  split at h
  · cases h
  next resource hresource =>
    split at h
    · cases h
    next claimed hidentified =>
      split at h
      · have hnamed := (identify_eq_ok_iff.mp hidentified).named
        rcases Resource.askedBy_operation claimed request resource operation h with hsame | hnone
        · obtain rfl := Option.some.inj (hsame.symm.trans sender)
          exact hnamed
        · rw [hnone] at sender
          cases sender
      · cases h

end Http

/-- A step of which the operation refuses says so and does nothing. -/
theorem Step.run_of_refuses (currency : String) {step : Step} {store : Store}
    {operation : Operation}
    {cause : Error} (asked : step.operation? = some operation)
    (h : Refuses operation.perform (step.context currency) (step.start store) cause) :
    (step.run currency store).answer = step.answerOf operation (.error cause) ∧
      (step.run currency store).store = store ∧ (step.run currency store).events = [] := by
  have hanswer := answer_of_operation currency store asked
  obtain ⟨hstore, hevents, -, -⟩ := run_of_operation currency store asked
  rw [h] at hanswer hstore hevents
  exact ⟨hanswer, hstore, hevents⟩

theorem Step.onlyAnswers_of_refuses (currency : String) {step : Step} {store : Store}
    {operation : Operation} {cause : Error} (asked : step.operation? = some operation)
    (h : Refuses operation.perform (step.context currency) (step.start store) cause) :
    step.OnlyAnswers currency store operation (.error cause) := by
  obtain ⟨hanswer, hstore, hevents⟩ := run_of_refuses currency asked h
  exact ⟨hanswer, hstore, hevents⟩

/-- What a step answers to a user belongs to the user. -/
theorem Step.answer_belongs (currency : String) {step : Step} {store : Store}
    {operation : Operation}
    {user : UserId} (before : store.tables.Coherent)
    (coherent : (step.run currency store).store.tables.Coherent)
    (divided : (step.run currency store).store.tables.Divided)
    (asked : step.operation? = some operation) (sender : operation.user? = some user) :
    ∃ result, (step.run currency store).answer = step.answerOf operation result ∧
      ∀ reply, result = .ok reply →
        reply.BelongsTo user (step.run currency store).store.tables := by
  obtain ⟨hstore, -⟩ := run_of_operation currency store asked
  refine ⟨_, answer_of_operation currency store asked, fun reply hreply => ?_⟩
  rw [hstore] at coherent divided ⊢
  exact Operation.belongsTo_of_returns before coherent divided sender (Prod.ext hreply rfl)

/-- Wherever a run of calls and requests from a store without orders has come to, users are isolated
from each other. Whatever a user asks for, with whatever arguments and faults, the orders, items,
payments, copies of addresses, carts and lines of the others stay exactly as they were, and whatever
is answered and announced belongs to the user. If no statement fails, a call about an existing order
of another user is answered so and does nothing, and neither does the cancellation of an item of
another order than the one that is named. Over HTTP the user is the one that the headers name. -/
theorem users_isolated (currency : String) (steps : List Step) (start : Store)
    (constrained : start.tables.Constrained) (orders : start.tables.orders = [])
    (served : ∀ step ∈ steps, step.IsServed) {step : Step} {operation : Operation} {user : UserId}
    (asked : step.operation? = some operation) (sender : operation.user? = some user) :
    let store := storeAfter currency steps start
    let outcome := step.run currency store
    outcome.store.tables.without user = store.tables.without user ∧
      (∃ result, outcome.answer = step.answerOf operation result ∧
        ∀ reply, result = .ok reply → reply.BelongsTo user outcome.store.tables) ∧
      (∀ event ∈ outcome.events, event.BelongsTo user outcome.store.tables) ∧
      (step.fault = none → ∀ order ∈ store.tables.orders, operation.order? = some order.id →
        order.userId ≠ user →
          outcome.answer = step.answerOf operation
            (.error (.forbidden "Order belongs to another user")) ∧
          outcome.store = store ∧ outcome.events = []) ∧
      (step.fault = none → ∀ item ∈ store.tables.orderItems, ∀ id reason,
        operation = .cancelItem user id item.id reason → item.orderId ≠ id →
          (∃ cause, outcome.answer = step.answerOf operation (.error cause)) ∧
            outcome.store = store ∧ outcome.events = []) ∧
      ∀ request, step.action = .request request → request.headers.Names user := by
  intro store outcome
  have hlast := Step.isServed_of_operation asked
  obtain ⟨lawful, divided⟩ := divided_storeAfter currency constrained orders served
  have hserved : ∀ other ∈ steps ++ [step], other.IsServed :=
    List.forall_mem_append.mpr ⟨served, List.forall_mem_singleton.mpr hlast⟩
  obtain ⟨lawful', divided'⟩ := divided_storeAfter currency constrained orders hserved
  rw [storeAfter_snoc] at lawful' divided'
  refine ⟨?_, ?_, ?_, fun calm order horder hnamed hforeign => ?_,
    fun calm item hitem id reason hop hother => ?_, fun request hsent => ?_⟩
  · refine Step.keeps (I := fun t => t.without user = store.tables.without user)
      currency hlast rfl ?_
    intro other events t' hother heffect
    obtain rfl := Option.some.inj (hother.symm.trans asked)
    exact heffect.without_eq lawful divided sender
  · exact Step.answer_belongs currency lawful.coherent lawful'.coherent divided' asked sender
  · rcases Step.run_effect currency store hlast with ⟨-, hnone⟩ | ⟨other, hother, heffect⟩
    · rw [show outcome.events = [] from hnone]
      exact List.forall_mem_nil _
    · obtain rfl := Option.some.inj (hother.symm.trans asked)
      exact heffect.events_belong lawful lawful'.coherent sender
  · obtain ⟨found, rfl⟩ := lawful.coherent.orders_read order horder
    have hstored : store.tables.orders.find? (fun row => row.id = found.id) = some found.row :=
      (find?_key_iff lawful.coherent.orders_key).mpr ⟨horder, rfl⟩
    exact Step.run_of_refuses currency asked
      (Operation.refuses_foreign calm lawful.coherent sender hnamed hstored hforeign)
  · subst hop
    obtain ⟨cause, hcause⟩ : ∃ cause, Refuses (Order.cancelItem user id item.id reason)
        (step.context currency) (step.start store) cause :=
      Order.refuses_otherItem reason calm lawful.coherent hitem hother
    obtain ⟨hanswer, hrest⟩ := Step.run_of_refuses currency asked (hcause.map _)
    exact ⟨⟨cause, hanswer⟩, hrest⟩
  · rw [Step.operation?, hsent] at asked
    exact Http.names_of_operation (eq_ok_of_toOption asked) sender

/-- User 7 orders two mugs. -/
def Step.twoMugs : List Step :=
  [ofCall (.placeDirect 7 6 .cod [⟨3, 2⟩])]

/-- User 8 cannot cancel the order of user 7. -/
theorem isolated_twoMugs :
    let store := storeAfter "INR" Step.twoMugs .stocked
    let outcome := (Step.ofCall (.cancelOrder 8 1)).run "INR" store
    store.tables.orders.map (fun order => (order.id, order.userId)) = [(1, 7)] ∧
      outcome.answer = .reply (.error (.forbidden "Order belongs to another user")) ∧
      outcome.store = store ∧ outcome.events = [] := by
  intro store outcome
  have hserved : ∀ step ∈ Step.twoMugs, step.IsServed := by
    simp [Step.twoMugs, Step.isServed_ofCall]
  have horders : store.tables.orders.map (fun order => (order.id, order.userId)) = [(1, 7)] := by
    decide +kernel
  obtain ⟨row, hrows, hrow⟩ := List.map_eq_singleton_iff.mp horders
  obtain ⟨hid, huser⟩ := Prod.mk.inj hrow
  have hmem : row ∈ store.tables.orders := by
    rw [hrows]
    exact List.mem_cons_self
  have hforeign : row.userId ≠ 8 := by
    rw [huser]
    decide
  obtain ⟨-, -, -, hrefused, -⟩ := users_isolated "INR" Step.twoMugs .stocked
    Store.constrained_stocked rfl hserved
    (show (Step.ofCall (.cancelOrder 8 1)).operation? = some (.cancelOrder 8 1) from rfl)
    (show (Operation.cancelOrder 8 1).user? = some 8 from rfl)
  exact ⟨horders, hrefused rfl row hmem (congrArg some hid.symm) hforeign⟩

end Storefront
