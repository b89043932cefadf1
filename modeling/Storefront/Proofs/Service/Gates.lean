import Storefront.Proofs.Http.Identity
import Storefront.Proofs.Service.Steps

/-!
The gates of the service. Each part of it is open to one role, and a request for one of its routes
is first looked at for who sends it. Whoever does not pass is turned away for that alone: neither
the store nor anything else of the request has a say in it.
-/

namespace Storefront

namespace Http

/-- The first parts of the paths that are open to a role. -/
def Role.parts : Role → List String
  | .user => ["orders", "carts", "payments"]
  | .admin => ["admin"]

/-- The path of a resource. -/
def Resource.path : Resource → List String
  | .orders => ["", "orders"]
  | .order id => ["", "orders", id]
  | .orderCancellation id => ["", "orders", id, "cancel"]
  | .orderItems id => ["", "orders", id, "items"]
  | .itemCancellation id item => ["", "orders", id, "items", item, "cancel"]
  | .orderPayment id => ["", "orders", id, "payment"]
  | .cart => ["", "carts", "me"]
  | .paymentIntents => ["", "payments", "intent"]
  | .paymentConfirmations => ["", "payments", "confirm"]
  | .allOrders => ["", "admin", "orders"]
  | .anyOrder id => ["", "admin", "orders", id]
  | .orderStatus id => ["", "admin", "orders", id, "status"]
  | .refunds id => ["", "admin", "payments", "refund", id]
  | .product id => ["", "admin", "products", id]

/-- A request has the path of a resource, and a method that the resource serves. -/
structure Request.IsFor (request : Request) (resource : Resource) : Prop where
  path : Resource.ofSegments? request.segments = some resource
  served : request.method.effective ∈ resource.methods

/-- The path and the method of a request are those of a route that begins with one of the parts. -/
def Request.IsUnder (request : Request) (parts : List String) : Prop :=
  ∃ resource part rest, request.IsFor resource ∧ request.segments = "" :: part :: rest ∧
    part ∈ parts

/-- Whenever and wherever the request is sent, it is answered with an error and does nothing. -/
def Request.IsTurnedAway (request : Request) (status : Nat) (code message : String) : Prop :=
  ∀ (currency : String) (store : Store) (step : Step), step.action = .request request →
    (step.run currency store).answer = .response (Response.sentTo request
        ⟨status, some (.object [("error",
          .object [("code", .string code), ("message", .string message)])])⟩) ∧
      (step.run currency store).store = store ∧ (step.run currency store).events = []

/-- Whenever and wherever the two requests are sent, they are answered alike. -/
def Request.AnsweredLike (request other : Request) : Prop :=
  ∀ (currency currency' : String) (store store' : Store) (step step' : Step),
    step.action = .request request → step'.action = .request other →
      (step.run currency store).answer = (step'.run currency' store').answer

variable {request other : Request} {resource : Resource} {role otherRole : Role} {user : UserId}
  {cause : Error}

theorem Resource.path_of_ofSegments? {segments : List String}
    (h : ofSegments? segments = some resource) : segments = resource.path := by
  -- an argument that ends a path is looked at first
  have hlast {id : String} {named : Resource}
      (h : (if id = "" then none else some named) = some resource) : named = resource := by
    split at h
    · cases h
    · exact Option.some.inj h
  unfold ofSegments? at h
  split at h
  all_goals first | cases h | obtain rfl := hlast h
  all_goals rfl

theorem Resource.exists_part (resource : Resource) :
    ∃ part rest, resource.path = "" :: part :: rest ∧ part ∈ resource.audience.parts := by
  cases resource
  all_goals exact ⟨_, _, rfl, by simp [audience, Role.parts]⟩

theorem Role.eq_of_mem_parts {part : String} (h : part ∈ role.parts)
    (h' : part ∈ otherRole.parts) : role = otherRole := by
  cases role with
  | user =>
    cases otherRole with
    | user => rfl
    | admin =>
      rw [List.mem_singleton.mp h'] at h
      exact absurd h (by decide)
  | admin =>
    cases otherRole with
    | user =>
      rw [List.mem_singleton.mp h] at h'
      exact absurd h' (by decide)
    | admin => rfl

/-- No two roles have the same name. -/
theorem Role.name_injective (h : role.name = otherRole.name) : role = otherRole := by
  cases role <;> cases otherRole <;> first | rfl | exact absurd h (by decide)

/-- Only the method decides whether a response is sent whole. -/
theorem Response.sentTo_congr (response : Response)
    (same : request.method = .head ↔ other.method = .head) :
    response.sentTo request = response.sentTo other := by
  simp only [sentTo, same]

namespace Request

/-- A route is open to the role that the part it begins with is open to. -/
theorem IsUnder.exists_resource (h : request.IsUnder role.parts) :
    ∃ resource, request.IsFor resource ∧ resource.audience = role := by
  obtain ⟨resource, part, rest, hfor, hsegments, hpart⟩ := h
  obtain ⟨part', rest', hpath, hpart'⟩ := resource.exists_part
  have hsame : "" :: part :: rest = "" :: part' :: rest' := by
    rw [← hsegments, ← hpath]
    exact Resource.path_of_ofSegments? hfor.path
  obtain ⟨rfl, -⟩ := List.cons.inj (List.cons.inj hsame).2
  exact ⟨resource, hfor, Role.eq_of_mem_parts hpart' hpart⟩

/-- What a request for a route asks for is up to who sends it first. -/
theorem IsFor.operation_of_passAs (h : request.IsFor resource)
    (passes : request.headers.PassAs resource.audience user) :
    request.operation = resource.operation user request := by
  rw [operation, h.path]
  dsimp only
  rw [identify_eq_ok_iff.mpr passes]
  exact if_pos h.served

theorem IsUnder.operation_of_identify (h : request.IsUnder role.parts)
    (refused : identify role request.headers = .error cause) :
    request.operation = .error (.error cause) := by
  obtain ⟨resource, hfor, rfl⟩ := h.exists_resource
  rw [operation, hfor.path]
  dsimp only
  rw [refused]

theorem IsUnder.isTurnedAway (h : request.IsUnder role.parts)
    (refused : identify role request.headers = .error cause) :
    request.IsTurnedAway cause.httpStatus cause.code cause.message := by
  intro currency store step hsent
  rw [Step.run_of_refusal currency store hsent (h.operation_of_identify refused)]
  exact ⟨rfl, rfl, rfl⟩

/-- Requests that nobody passes with are answered like one another. -/
theorem IsUnder.answeredLike (h : request.IsUnder role.parts) (h' : other.IsUnder role.parts)
    (same : request.headers.SameIdentity other.headers)
    (method : request.method = .head ↔ other.method = .head)
    (stopped : ∀ user, ¬request.headers.PassAs role user) : request.AnsweredLike other := by
  obtain ⟨cause, hcause⟩ := exists_refusal stopped
  have hcause' := (identify_congr same).symm.trans hcause
  intro currency currency' store store' step step' hsent hsent'
  rw [(h.isTurnedAway hcause currency store step hsent).1,
    (h'.isTurnedAway hcause' currency' store' step' hsent').1, Response.sentTo_congr _ method]

theorem IsUnder.isForbidden (h : request.IsUnder role.parts)
    (refused : identify role request.headers = .error role.refusal) :
    request.IsTurnedAway 403 "FORBIDDEN_ACTION" role.refusal.message := by
  have haway := h.isTurnedAway refused
  cases role with
  | user => exact haway
  | admin => exact haway

end Request

/-- Who passes one gate comes to the other in the wrong role. -/
theorem Headers.PassAs.not_giveRole {headers : Headers} (h : headers.PassAs role user)
    (different : otherRole ≠ role) : ¬headers.GiveRole otherRole.name := by
  intro hother
  have hname : otherRole.name = role.name := by
    rw [← claimedRole_eq_iff.mpr hother, ← claimedRole_eq_iff.mpr h.given]
  exact different (Role.name_injective hname)

end Http

open Http in
/-- The gate of a part of the service decides on every request for one of its routes. Whoever is not
named by the headers is unauthorized, and whoever is named but comes in another role is forbidden to
go on; the request is answered so whatever the store and does nothing. Anyone else passes, and what
is asked for is up to the route. A request that does not pass is answered like any other for the
same part that comes with the same identity, on any store, and whoever passes here is turned away at
the gate of the other role. -/
theorem requests_gated {role : Role} {request : Request} (routed : request.IsUnder role.parts) :
    ((∀ user, ¬request.headers.Names user) →
        request.IsTurnedAway 401 "UNAUTHORIZED" "missing or invalid user identity") ∧
      (∀ user, request.headers.Names user → ¬request.headers.GiveRole role.name →
        request.IsTurnedAway 403 "FORBIDDEN_ACTION" role.refusal.message) ∧
      (∀ user, request.headers.PassAs role user →
        ∃ resource, request.IsFor resource ∧
          request.operation = resource.operation user request) ∧
      (∀ other : Request, other.IsUnder role.parts → request.headers.SameIdentity other.headers →
        (request.method = .head ↔ other.method = .head) →
          (∀ user, ¬request.headers.PassAs role user) → request.AnsweredLike other) ∧
      (∀ (other : Request) (otherRole : Role) user, other.IsUnder otherRole.parts →
        otherRole ≠ role → request.headers.SameIdentity other.headers →
          request.headers.PassAs role user →
            other.IsTurnedAway 403 "FORBIDDEN_ACTION" otherRole.refusal.message) := by
  refine ⟨fun hunnamed => ?_, fun user hnamed hother => ?_, fun user hpasses => ?_,
    fun other hrouted hsame hmethod hstopped => ?_, fun other otherRole user hrouted hother hsame
      hpasses => ?_⟩
  · exact routed.isTurnedAway (identify_of_unnamed hunnamed)
  · exact routed.isForbidden (identify_of_otherRole hnamed hother)
  · obtain ⟨resource, hfor, rfl⟩ := routed.exists_resource
    exact ⟨resource, hfor, hfor.operation_of_passAs hpasses⟩
  · exact routed.answeredLike hrouted hsame hmethod hstopped
  · have hrefused := identify_of_otherRole hpasses.named (hpasses.not_giveRole hother)
    exact hrouted.isForbidden ((identify_congr hsame).symm.trans hrefused)

/-- A user named with a sign, zeros and blanks looks at an order. -/
def Http.Request.lookAtOrder : Http.Request :=
  ⟨.get, "/orders/5", ⟨[("x-user-id", "\t+007 ")]⟩, ""⟩

/-- The same user tries to edit a product, with nothing in the request as it should be. -/
def Http.Request.misshapenEdit : Http.Request :=
  ⟨.patch, "/admin/products/mug?stock",
    ⟨[("x-user-id", "\t+007 "), ("content-type", "text/plain")]⟩, "stock=5"⟩

theorem gated_signedUser :
    Http.Request.lookAtOrder.headers.PassAs .user 7 ∧
      Http.Request.misshapenEdit.IsTurnedAway 403 "FORBIDDEN_ACTION" "Admin role required" := by
  have hrouted : Http.Request.lookAtOrder.IsUnder Http.Role.user.parts :=
    ⟨.order "5", "orders", ["5"], ⟨by decide +kernel, by decide⟩, by decide +kernel, by decide⟩
  have hother : Http.Request.misshapenEdit.IsUnder Http.Role.admin.parts :=
    ⟨.product "mug", "admin", ["products", "mug"], ⟨by decide +kernel, by decide⟩,
      by decide +kernel, by decide⟩
  have hsame : Http.Request.lookAtOrder.headers.SameIdentity Http.Request.misshapenEdit.headers :=
    ⟨by decide +kernel, by decide +kernel⟩
  have hpasses : Http.Request.lookAtOrder.headers.PassAs .user 7 :=
    ⟨Http.Headers.claimedUser?_eq_some_iff.mp (by decide +kernel),
      Http.Headers.claimedRole_eq_iff.mp (by decide +kernel)⟩
  obtain ⟨-, -, -, -, haway⟩ := requests_gated hrouted
  exact ⟨hpasses, haway _ .admin 7 hother (by decide) hsame hpasses⟩

end Storefront
