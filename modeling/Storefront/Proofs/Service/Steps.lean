import Storefront.Proofs.Session.Scope
import Storefront.Service.Run

/-!
Steps by the operation that they perform. A call and the request for the same operation leave the
same store behind and announce the same events; a request that asks for no operation does nothing.
-/

namespace Storefront

open Session

/-- The operation that a step performs, if it performs one. -/
def Step.operation? (step : Step) : Option Operation :=
  match step.action with
  | .call operation => some operation
  | .request request => request.operation.toOption
  | .edit _ => none

/-- The step as it is when no statement of it fails. -/
def Step.calm (step : Step) : Step :=
  { step with fault := none }

def Step.context (currency : String) (step : Step) : Context :=
  ⟨step.clock, currency⟩

/-- A call at the first moment, of which no statement fails. -/
def Step.ofCall (operation : Operation) : Step :=
  ⟨⟨⟨0, 0⟩, ⟨0, 0⟩⟩, none, .call operation⟩

/-- A call at the given second. -/
def Step.ofCallAt (second : Int) (operation : Operation) : Step :=
  { ofCall operation with clock := ⟨⟨second, 0⟩, ⟨second, 0⟩⟩ }

/-- What a step that performs an operation answers, by what the operation comes to. -/
def Step.answerOf (step : Step) (operation : Operation) (outcome : Except Error Reply) : Answer :=
  match step.action with
  | .request request => .response ((Http.Response.ofOutcome operation outcome).sentTo request)
  | _ => .reply outcome

/-- The step is answered by what its operation comes to, and does nothing. -/
structure Step.OnlyAnswers (currency : String) (store : Store) (operation : Operation)
    (outcome : Except Error Reply) (step : Step) : Prop where
  answer : (step.run currency store).answer = step.answerOf operation outcome
  unchanged : (step.run currency store).store = store
  silent : (step.run currency store).events = []

/-- What a step begins with. -/
def Step.start (step : Step) (store : Store) : Progress :=
  ⟨store.tables, store.sequences, step.fault, [], false⟩

/-- An error object, or a response with the status of an error. -/
def Answer.isError : Answer → Bool
  | .reply (.error _) => true
  | .reply (.ok _) => false
  | .response sent => 400 ≤ sent.status
  | .edited _ => false

theorem Answer.isError_reply (outcome : Except Error Reply) :
    (Answer.reply outcome).isError ↔ ∃ cause, outcome = .error cause := by
  cases outcome with
  | error cause => simp [isError]
  | ok reply => simp [isError]

theorem eq_ok_of_toOption {ε α : Type} {outcome : Except ε α} {a : α}
    (h : outcome.toOption = some a) : outcome = .ok a := by
  cases outcome with
  | error cause => cases h
  | ok b => exact congrArg Except.ok (Option.some.inj h)

namespace Http

@[simp] theorem Response.status_sentTo (request : Request) (response : Response) :
    (response.sentTo request).status = response.status := by
  unfold Response.sentTo
  split <;> rfl

theorem Response.isError_ofOutcome (operation : Operation) (outcome : Except Error Reply) :
    400 ≤ (Response.ofOutcome operation outcome).status ↔ ∃ cause, outcome = .error cause := by
  cases outcome with
  | error cause => simpa [Response.ofOutcome, Response.failure] using cause.httpStatus_ge
  | ok reply => simp [Response.ofOutcome, Response.success]

theorem exec_serve {request : Request} {operation : Operation}
    (h : request.operation = .ok operation) (context : Context) (p : Progress) :
    (serve request).exec context p =
      (.ok ((Response.ofOutcome operation (operation.perform.exec context p).1).sentTo request),
        (operation.perform.exec context p).2) := by
  unfold serve
  rw [h]
  rfl

end Http

namespace Step

variable {currency : String} {step : Step} {store : Store} {operation : Operation}

/-- What a step that performs an operation comes to. -/
theorem run_of_operation (currency : String) (store : Store)
    (h : step.operation? = some operation) :
    (step.run currency store).store =
        (operation.perform.exec (step.context currency) (step.start store)).2.store ∧
      (step.run currency store).events =
        (operation.perform.exec (step.context currency) (step.start store)).2.events ∧
      (step.run currency store).overflowed =
        (operation.perform.exec (step.context currency) (step.start store)).2.overflowed ∧
      ((step.run currency store).answer.isError ↔
        ∃ cause, (operation.perform.exec (step.context currency) (step.start store)).1 =
          .error cause) := by
  obtain ⟨clock, fault, action⟩ := step
  cases action with
  | call other =>
    obtain rfl : other = operation := Option.some.inj h
    exact ⟨rfl, rfl, rfl, Answer.isError_reply _⟩
  | request request =>
    have hserve := Http.exec_serve (eq_ok_of_toOption h)
    refine ⟨?_, ?_, ?_, ?_⟩
    · simp only [run, runOn, hserve]
      rfl
    · simp only [run, runOn, hserve]
      rfl
    · simp only [run, runOn, hserve]
      rfl
    · simp only [run, runOn, hserve, Answer.isError, Http.Response.status_sentTo, decide_eq_true_eq,
        Http.Response.isError_ofOutcome]
      rfl
  | edit edit => simp [operation?] at h

theorem answer_of_operation (currency : String) (store : Store)
    (h : step.operation? = some operation) :
    (step.run currency store).answer = step.answerOf operation
      (operation.perform.exec (step.context currency) (step.start store)).1 := by
  obtain ⟨clock, fault, action⟩ := step
  cases action with
  | call other =>
    obtain rfl : other = operation := Option.some.inj h
    rfl
  | request request =>
    simp only [run, runOn, Http.exec_serve (eq_ok_of_toOption h)]
    rfl
  | edit edit => simp [operation?] at h

/-- What comes of a step of which the operation returns. -/
theorem outcome_of_returns (currency : String) {reply : Reply} {after : Progress}
    (asked : step.operation? = some operation)
    (h : Returns operation.perform (step.context currency) (step.start store) reply after) :
    (step.run currency store).answer = step.answerOf operation (.ok reply) ∧
      (step.run currency store).store = after.store ∧
      (step.run currency store).events = after.events := by
  have hanswer := answer_of_operation currency store asked
  obtain ⟨hstore, hevents, -, -⟩ := run_of_operation currency store asked
  rw [Returns] at h
  rw [h] at hanswer hstore hevents
  exact ⟨hanswer, hstore, hevents⟩

/-- A step succeeds if and only if its operation returns. -/
theorem succeeds_iff (asked : step.operation? = some operation) {after : Store} :
    (step.run currency store).answer.isError = false ∧ (step.run currency store).store = after ↔
      ∃ reply p', Returns operation.perform (step.context currency) (step.start store) reply p' ∧
        p'.store = after := by
  obtain ⟨hstore, -, -, herror⟩ := run_of_operation currency store asked
  rw [← Bool.not_eq_true, herror, hstore]
  simp only [Returns]
  rcases operation.perform.exec (step.context currency) (step.start store) with
    ⟨cause | reply, p'⟩
  · simp
  · simp

/-- A step of which the operation returns is not answered by an error. -/
theorem run_of_returns (currency : String) {reply : Reply} {after : Progress}
    (asked : step.operation? = some operation)
    (h : Returns operation.perform (step.context currency) (step.start store) reply after) :
    (step.run currency store).answer.isError = false ∧
      (step.run currency store).store.tables = after.tables := by
  obtain ⟨hanswer, hstore⟩ := (succeeds_iff asked).mpr ⟨reply, after, h, rfl⟩
  exact ⟨hanswer, congrArg (·.tables) hstore⟩

/-- An edit is never answered by an error. -/
theorem isError_edit (currency : String) (store : Store) {edit : Edit}
    (h : step.action = .edit edit) : (step.run currency store).answer.isError = false := by
  unfold run
  rw [h]
  cases hedit : store.tables.edit? edit with
  | none => simp [hedit, Answer.isError]
  | some tables => simp [hedit, Answer.isError]

/-- A request that asks for no operation is answered why, and does nothing. -/
theorem run_of_refusal (currency : String) (store : Store) {request : Http.Request}
    {refusal : Http.Refusal} (sent : step.action = .request request)
    (refused : request.operation = .error refusal) :
    step.run currency store = ⟨.response (refusal.response.sentTo request), [], store, false⟩ := by
  have hserve (context : Context) (p : Progress) :
      (Http.serve request).exec context p = (.ok (refusal.response.sentTo request), p) := by
    rw [Http.serve, refused]
    rfl
  simp only [run, sent, Session.runOn, hserve, Progress.store]

/-- A step that performs no operation and is no edit does nothing. -/
theorem run_of_no_operation (currency : String) (store : Store) (h : step.operation? = none)
    (hedit : ∀ edit, step.action ≠ .edit edit) :
    (step.run currency store).store = store ∧ (step.run currency store).events = [] ∧
      (step.run currency store).overflowed = false := by
  obtain ⟨clock, fault, action⟩ := step
  cases action with
  | call other => simp [operation?] at h
  | request request =>
    cases hop : request.operation with
    | error refusal =>
      rw [run_of_refusal currency store rfl hop]
      exact ⟨rfl, rfl, rfl⟩
    | ok other => simp [operation?, hop, Except.toOption] at h
  | edit edit => exact absurd rfl (hedit edit)

end Step
end Storefront
