import Storefront.Http.Message
import Storefront.Text.Blank
import Storefront.Text.Digits

/-!
Who sends a request. A gateway in front of the service names the user and the role in two headers;
each part of the service is open to one role.
-/

namespace Storefront.Http

inductive Role where
  | user
  | admin
  deriving DecidableEq, Repr

namespace Role

def name : Role → String
  | .user => "user"
  | .admin => "admin"

/-- What someone in another role is told. -/
def refusal : Role → Error
  | .user => .forbidden "User role required"
  | .admin => .forbidden "Admin role required"

end Role

def userIdHeader : String := "x-user-id"

def userRoleHeader : String := "x-user-role"

/-- The user named in the headers: a positive 32-bit integer, with blanks around it. -/
def claimedUser? (headers : Headers) : Option UserId :=
  ((headers.readable? userIdHeader).bind fun value =>
    Text.signedWord? 32 (Text.trim value)).filter (0 < ·)

/-- The role named in the headers; without one it is that of a user. -/
def claimedRole (headers : Headers) : String :=
  (headers.readable? userRoleHeader).getD Role.user.name

/-- The user who sends a request that needs the given role. -/
def identify (role : Role) (headers : Headers) : Except Error UserId :=
  match claimedUser? headers with
  | none => .error .unauthorized
  | some user => if claimedRole headers = role.name then .ok user else .error role.refusal

end Storefront.Http
