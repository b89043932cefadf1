import Storefront.Text.Digits

/-!
The settings of the service, read from named variables of its environment.
-/

namespace Storefront

structure Settings where
  databaseUrl : String
  poolSize : Nat
  port : Nat
  currency : String
  deriving DecidableEq, Repr

namespace Settings

/-- The currency of payments, unless another is set. -/
def defaultCurrency : String := "INR"

inductive Fault where
  | missing (name : String)
  | invalid (name value : String)
  deriving DecidableEq, Repr

def Fault.message : Fault → String
  | .missing name => name ++ " must be set"
  | .invalid name value => name ++ " has an invalid value: " ++ value

/-- The number in a variable, which has to fit an unsigned word of so many bits. -/
def number (env : String → Option String) (name : String) (bits default : Nat) :
    Except Fault Nat :=
  match env name with
  | none => .ok default
  | some value =>
    match Text.unsignedWord? bits value with
    | none => .error (.invalid name value)
    | some n => .ok n

def load (env : String → Option String) : Except Fault Settings :=
  match env "DATABASE_URL" with
  | none => .error (.missing "DATABASE_URL")
  | some databaseUrl => do
    let poolSize ← number env "DATABASE_POOL_SIZE" 32 10
    let port ← number env "SERVER_PORT" 16 3000
    return ⟨databaseUrl, poolSize, port, (env "PAYMENT_CURRENCY").getD defaultCurrency⟩

end Settings
end Storefront
